/-!
# Log records

A record has a level, the name of the logger it comes from and a message.  Operations hand their
records out as lists in order; who shows them, and where, is decided elsewhere.
-/
namespace Conform

namespace Log

/-- A message for the log. -/
structure Record where
  level : Int
  logger : String
  message : String
deriving DecidableEq, Repr, Inhabited

/-- The levels with names, from the most to the least severe; some have two. -/
def named : List (String × Int) :=
  [("CRITICAL", 50), ("FATAL", 50), ("ERROR", 40), ("WARNING", 30), ("WARN", 30), ("INFO", 20),
    ("DEBUG", 10), ("NOTSET", 0)]

def debugLevel : Int := 10

def infoLevel : Int := 20

def warningLevel : Int := 30

def errorLevel : Int := 40

/-- The name of a level: its first name, or a text with its number. -/
def levelName (level : Int) : String :=
  match named.find? (·.2 == level) with
  | some n => n.1
  | none => s!"Level {level}"

/-- A record that tells how an operation went on. -/
def debug (logger message : String) : Record := ⟨debugLevel, logger, message⟩

/-- A record of something that was passed over. -/
def warning (logger message : String) : Record := ⟨warningLevel, logger, message⟩

/-- A record of why an operation ended. -/
def error (logger message : String) : Record := ⟨errorLevel, logger, message⟩

end Log

/-- An outcome and the records written on the way. -/
structure Logged (α : Type) where
  log : List Log.Record
  outcome : α
deriving Inhabited

namespace Logged

/-- An outcome without records. -/
def silent {α : Type} (a : α) : Logged α := ⟨[], a⟩

/-- An outcome after a single record. -/
def after {α : Type} (r : Log.Record) (a : α) : Logged α := ⟨[r], a⟩

/-- Goes on with an outcome; the records of both come in order. -/
def bind {α β : Type} (x : Logged α) (f : α → Logged β) : Logged β :=
  ⟨x.log ++ (f x.outcome).log, (f x.outcome).outcome⟩

instance : Monad Logged where
  pure := silent
  bind := bind

@[simp] theorem log_pure {α : Type} (a : α) : (pure a : Logged α).log = [] := rfl

@[simp] theorem outcome_pure {α : Type} (a : α) : (pure a : Logged α).outcome = a := rfl

@[simp] theorem outcome_bind {α β : Type} (x : Logged α) (f : α → Logged β) :
    (x >>= f).outcome = (f x.outcome).outcome := rfl

@[simp] theorem log_bind {α β : Type} (x : Logged α) (f : α → Logged β) :
    (x >>= f).log = x.log ++ (f x.outcome).log := rfl

end Logged

end Conform

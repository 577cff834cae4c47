import Conform.File.Tree
import Conform.Proofs.File.Path
import Conform.Proofs.Lists
/-!
# What lies below a directory

`Leads` says where names lead down from a place, by entries and through no link, and what a directory
contains is what some names lead down to (`mem_contents_iff`).  Looking up a path goes through links; where
there is none on the way below a directory, it goes down by the same entries (`find?_of_leads`,
`exists_leads_of_find?`).
-/
namespace Conform

namespace FilePath

/-- Whether a name can stand in a directory: it can be shown and is no step up. -/
structure IsEntryName (n : String) : Prop extends IsName n where
  noAscent : n ≠ ".."

instance (n : String) : Decidable (IsEntryName n) :=
  decidable_of_iff (n ≠ "" ∧ n ≠ "." ∧ '/' ∉ n.toList ∧ n ≠ "..")
    ⟨fun ⟨nonempty, noStep, noSeparator, noAscent⟩ => ⟨⟨nonempty, noStep, noSeparator⟩, noAscent⟩,
      fun h => ⟨h.nonempty, h.noStep, h.noSeparator, h.noAscent⟩⟩

/-- The path that names lead to from a directory. -/
def belowAll (d : FilePath) (names : List String) : FilePath := { d with names := d.names ++ names }

/-- Whether a path leads to somewhere below a directory, without steps up. -/
def IsBelow (p d : FilePath) : Prop := ∃ names, names ≠ [] ∧ ".." ∉ names ∧ p = d.belowAll names

theorem belowAll_nil (d : FilePath) : d.belowAll [] = d := by simp [belowAll]

theorem belowAll_cons (d : FilePath) (n : String) (ns : List String) :
    d.belowAll (n :: ns) = (d.below n).belowAll ns := by simp [belowAll, below]

theorem belowAll_belowAll (d : FilePath) (ms ns : List String) :
    (d.belowAll ms).belowAll ns = d.belowAll (ms ++ ns) := by simp [belowAll]

theorem belowAll_injective (d : FilePath) : Function.Injective d.belowAll := fun ms ns h => by
  simpa [belowAll] using h

end FilePath

open FilePath

namespace FileTree

/-- Whether each directory of a tree holds one thing under a name, and the names can stand there. -/
inductive IsWellFormed : FileTree → Prop where
  | file (bytes : List UInt8) : IsWellFormed (.file bytes)
  | link (target : FilePath) : IsWellFormed (.link target)
  | device : IsWellFormed .device
  | directory {es : List (String × FileTree)} (distinct : (es.map (·.1)).Nodup)
      (names : ∀ e ∈ es, IsEntryName e.1) (entries : ∀ e ∈ es, IsWellFormed e.2) :
      IsWellFormed (.directory es)

/-- Where names lead down to from a place. -/
inductive Leads : FileTree → List String → FileTree → Prop where
  | here (t : FileTree) : Leads t [] t
  | down {es : List (String × FileTree)} {n : String} {c u : FileTree} {ns : List String}
      (entry : (n, c) ∈ es) (rest : Leads c ns u) : Leads (.directory es) (n :: ns) u

variable {t u c : FileTree} {ms ns : List String}

theorem Leads.trans (h : Leads t ms u) (g : Leads u ns c) : Leads t (ms ++ ns) c := by
  induction h with
  | here => exact g
  | down entry _ ih => exact .down entry (ih g)

/-- Names that lead somewhere stand in directories. -/
theorem Leads.names (h : Leads t ns u) (wf : t.IsWellFormed) : ∀ n ∈ ns, IsEntryName n := by
  induction h with
  | here => simp
  | down entry _ ih =>
    cases wf with
    | directory _ names entries =>
      exact List.forall_mem_cons.mpr ⟨names _ entry, ih (entries _ entry)⟩

theorem Leads.noAscent (h : Leads t ns u) (wf : t.IsWellFormed) : ".." ∉ ns := fun mem =>
  (h.names wf _ mem).noAscent rfl

/-! ### Looking up -/

theorem child?_eq_some_iff {es : List (String × FileTree)} {n : String}
    (distinct : (es.map (·.1)).Nodup) : (directory es).child? n = some c ↔ (n, c) ∈ es :=
  find?_key_eq_some_iff distinct

theorem IsWellFormed.child? {n : String} (wf : t.IsWellFormed) (h : t.child? n = some c) :
    c.IsWellFormed := by
  cases wf with
  | file => cases h
  | link => cases h
  | device => cases h
  | directory distinct _ entries => exact entries _ ((child?_eq_some_iff distinct).mp h)

theorem exists_directory (h : t.isDirectory = true) : ∃ es, t = directory es := by
  cases t with
  | directory es => exact ⟨es, rfl⟩
  | _ => cases h

/-- Whether something is a symbolic link. -/
def isLink : FileTree → Bool
  | link _ => true
  | _ => false

theorem exists_link (h : t.isLink = true) : ∃ target, t = link target := by
  cases t with
  | link target => exact ⟨target, rfl⟩
  | _ => cases h

variable {root : FileTree} {links : Nat} {rooted : Bool} {above : List FileTree} {n : String}

/-- A name that is no step up leads on to the entry of this name, if it is no link. -/
theorem follow?_child (ascent : n ≠ "..") (child : t.child? n = some c) (direct : c.isLink = false)
    (ns : List String) :
    follow? root links rooted above t (n :: ns) = follow? root links rooted (t :: above) c ns := by
  cases c with
  | link target => cases direct
  | _ => cases links <;> exact (if_neg ascent).trans (by rw [child]; rfl)

theorem follow?_missing (ascent : n ≠ "..") (child : t.child? n = none) (ns : List String) :
    follow? root links rooted above t (n :: ns) = none := by
  cases links <;> exact (if_neg ascent).trans (by rw [child])

/-- Where following goes on at a link. -/
theorem follow?_link (ascent : n ≠ "..") {target : FilePath} (child : t.child? n = some (link target))
    (ns : List String) : follow? root (links + 1) rooted above t (n :: ns) =
      if target.root = .here then follow? root links rooted above t (target.names ++ ns)
      else follow? root links true [] root (target.names ++ ns) :=
  (if_neg ascent).trans (by rw [child])

theorem follow?_noLink (ascent : n ≠ "..") {target : FilePath} (child : t.child? n = some (link target))
    (ns : List String) : follow? root 0 rooted above t (n :: ns) = none :=
  (if_neg ascent).trans (by rw [child])

/-- Where a step up leads, with the directories that are left above. -/
def up? (rooted : Bool) (above : List FileTree) (t : FileTree) : Option (List FileTree × FileTree) :=
  if t.isDirectory then
    match above with
    | a :: above => some (above, a)
    | [] => if rooted then some ([], t) else none
  else none

theorem follow?_up (ns : List String) : follow? root links rooted above t (".." :: ns) =
    (up? rooted above t).bind fun s => follow? root links rooted s.1 s.2 ns := by
  cases hdir : t.isDirectory <;> cases above <;> cases rooted <;> cases links <;>
    simp [follow?, followWith, up?, hdir]

/-- The ways in which following goes on at a name. -/
theorem follow?_cases (root : FileTree) (links : Nat) (rooted : Bool) (above : List FileTree)
    (t : FileTree) (n : String) :
    (∀ ns, follow? root links rooted above t (n :: ns) = none) ∨
    (∃ above' u, ((u = t ∨ u ∈ above ∨ t.child? n = some u) ∧ ∀ a ∈ above', a = t ∨ a ∈ above) ∧
      ∀ ns, follow? root links rooted above t (n :: ns) = follow? root links rooted above' u ns) ∨
    ∃ links' rooted' above' u names, links = links' + 1 ∧
      ((u = t ∧ above' = above) ∨ u = root ∧ above' = []) ∧
      ∀ ns, follow? root links rooted above t (n :: ns) =
        follow? root links' rooted' above' u (names ++ ns) := by
  by_cases ascent : n = ".."
  · subst ascent
    cases hup : up? rooted above t with
    | none => exact .inl fun ns => by rw [follow?_up, hup]; rfl
    | some s =>
      obtain ⟨above', u⟩ := s
      refine .inr (.inl ⟨above', u, ?_, fun ns => by rw [follow?_up, hup]; rfl⟩)
      -- A step up leads to a directory above or, at the root, nowhere else.
      unfold up? at hup
      split at hup
      · cases above with
        | cons a above =>
          cases hup
          exact ⟨.inr (.inl List.mem_cons_self), fun b hb => .inr (List.mem_cons_of_mem _ hb)⟩
        | nil =>
          cases rooted <;> cases hup
          exact ⟨.inl rfl, by simp⟩
      · cases hup
  · cases child : t.child? n with
    | none => exact .inl (follow?_missing ascent child)
    | some c =>
      cases direct : c.isLink with
      | false =>
        exact .inr (.inl ⟨t :: above, c, ⟨.inr (.inr rfl), by simp⟩, follow?_child ascent child direct⟩)
      | true =>
        obtain ⟨target, rfl⟩ := exists_link direct
        cases links with
        | zero => exact .inl (follow?_noLink ascent child)
        | succ links =>
          refine .inr (.inr ?_)
          -- A target that starts at the root starts there without directories above it.
          by_cases relative : target.root = .here
          · exact ⟨links, rooted, above, t, target.names, rfl, .inl ⟨rfl, rfl⟩, fun ns => by
              rw [follow?_link ascent child, if_pos relative]⟩
          · exact ⟨links, true, [], root, target.names, rfl, .inr ⟨rfl, rfl⟩, fun ns => by
              rw [follow?_link ascent child, if_neg relative]⟩

/-- **Following goes on from where it has come to**, with the links that it has not used up. -/
theorem follow?_append (h : follow? root links rooted above t ms = some u) :
    ∃ links' rooted' above', ∀ ns, follow? root links rooted above t (ms ++ ns) =
      follow? root links' rooted' above' u ns := by
  -- A link uses up one of the links and puts names in front; other names are taken one by one.
  induction links using Nat.strongRecOn generalizing rooted above t ms with
  | ind links ihLinks =>
  induction ms generalizing above t with
  | nil =>
    obtain rfl : t = u := by cases links <;> exact Option.some.inj h
    exact ⟨links, rooted, above, fun _ => rfl⟩
  | cons n ms ih =>
    rcases follow?_cases root links rooted above t n with
      none | ⟨above', c, -, step⟩ | ⟨links', rooted', above', c, names, rfl, -, jump⟩
    · cases (none ms).symm.trans h
    · rw [step] at h
      obtain ⟨links', rooted', above'', rest⟩ := ih h
      exact ⟨links', rooted', above'', fun ns => by rw [List.cons_append, step, rest]⟩
    · rw [jump] at h
      obtain ⟨links'', rooted'', above'', rest⟩ := ihLinks links' (Nat.lt_succ_self _) h
      exact ⟨links'', rooted'', above'', fun ns => by
        rw [List.cons_append, jump, ← List.append_assoc, rest]⟩

/-- Where nothing is found, nothing is found behind it. -/
theorem follow?_append_eq_none (h : follow? root links rooted above t ms = none) (ns : List String) :
    follow? root links rooted above t (ms ++ ns) = none := by
  induction links using Nat.strongRecOn generalizing rooted above t ms with
  | ind links ihLinks =>
  induction ms generalizing above t with
  | nil => cases links <;> cases h
  | cons n ms ih =>
    rcases follow?_cases root links rooted above t n with
      none | ⟨above', c, -, step⟩ | ⟨links', rooted', above', c, names, rfl, -, jump⟩
    · exact none _
    · rw [step] at h
      rw [List.cons_append, step, ih h]
    · rw [jump] at h
      rw [List.cons_append, jump, ← List.append_assoc, ihLinks links' (Nat.lt_succ_self _) h]

theorem isWellFormed_of_follow? (wf : ∀ a ∈ root :: t :: above, a.IsWellFormed)
    (h : follow? root links rooted above t ns = some u) : u.IsWellFormed := by
  -- Each link uses up one of those that may be gone through, and may add names to the path.
  induction links using Nat.strongRecOn generalizing rooted above t ns with
  | ind links ihLinks =>
  induction ns generalizing above t with
  | nil =>
    obtain rfl : t = u := by cases links <;> exact Option.some.inj h
    exact wf t (by simp)
  | cons n ns ih =>
    have here : t.IsWellFormed := wf t (by simp)
    rcases follow?_cases root links rooted above t n with
      none | ⟨above', c, ⟨hc, habove⟩, step⟩ | ⟨links', rooted', above', c, names, rfl, place, jump⟩
    · cases (none ns).symm.trans h
    · rw [step] at h
      refine ih (fun a ha => ?_) h
      simp only [List.mem_cons] at ha
      rcases ha with rfl | rfl | ha
      · exact wf a (by simp)
      · rcases hc with rfl | hc | child
        · exact here
        · exact wf a (by simp [hc])
        · exact here.child? child
      · rcases habove a ha with rfl | ha
        · exact here
        · exact wf a (by simp [ha])
    · rw [jump] at h
      refine ihLinks links' (Nat.lt_succ_self _) (fun a ha => ?_) h
      rcases place with ⟨rfl, rfl⟩ | ⟨rfl, rfl⟩
      · exact wf a ha
      · simp only [List.mem_cons, List.not_mem_nil, or_false, or_self] at ha
        exact wf a (by simp [ha])

/-! ### Listing -/

mutual

/-- What is listed below a place is what names lead down to from it. -/
theorem mem_contents_iff {p : FilePath} (path : FilePath) : (t : FileTree) →
    (p ∈ t.contents path ↔ ∃ ns u, ns ≠ [] ∧ Leads t ns u ∧ p = path.belowAll ns)
  | .directory es => by
    rw [contents, mem_contentsOf_iff path es]
    constructor
    · rintro ⟨n, c, ns, u, entry, rest, rfl⟩
      exact ⟨n :: ns, u, by simp, .down entry rest, rfl⟩
    · rintro ⟨ns, u, ne, h, rfl⟩
      cases h with
      | here => exact absurd rfl ne
      | down entry rest => exact ⟨_, _, _, u, entry, rest, rfl⟩
  | .file _ => by
    simp only [contents]
    refine ⟨nofun, ?_⟩
    rintro ⟨ns, u, ne, h, -⟩
    cases h
    exact absurd rfl ne
  | .link _ => by
    simp only [contents]
    refine ⟨nofun, ?_⟩
    rintro ⟨ns, u, ne, h, -⟩
    cases h
    exact absurd rfl ne
  | .device => by
    simp only [contents]
    refine ⟨nofun, ?_⟩
    rintro ⟨ns, u, ne, h, -⟩
    cases h
    exact absurd rfl ne

/-- What is listed for entries is what an entry and names below it lead to. -/
theorem mem_contentsOf_iff {p : FilePath} (path : FilePath) : (es : List (String × FileTree)) →
    (p ∈ contentsOf path es ↔
      ∃ n c ns u, (n, c) ∈ es ∧ Leads c ns u ∧ p = path.belowAll (n :: ns))
  | [] => by
    rw [contentsOf]
    refine ⟨nofun, ?_⟩
    rintro ⟨n, c, ns, u, entry, -⟩
    cases entry
  | (m, t) :: es => by
    rw [contentsOf, List.mem_cons, List.mem_append, mem_contents_iff (path.below m) t,
      mem_contentsOf_iff path es]
    constructor
    · rintro (rfl | ⟨ns, u, -, h, rfl⟩ | ⟨n, c, ns, u, entry, h, rfl⟩)
      · exact ⟨m, t, [], t, List.mem_cons_self, .here t, rfl⟩
      · exact ⟨m, t, ns, u, List.mem_cons_self, h, (belowAll_cons ..).symm⟩
      · exact ⟨n, c, ns, u, List.mem_cons_of_mem _ entry, h, rfl⟩
    · rintro ⟨n, c, ns, u, entry, h, rfl⟩
      rcases List.mem_cons.mp entry with first | entry
      · obtain ⟨rfl, rfl⟩ := Prod.mk.inj first
        cases ns with
        | nil => exact Or.inl rfl
        | cons m ns => exact Or.inr (Or.inl ⟨m :: ns, u, by simp, h, belowAll_cons ..⟩)
      · exact Or.inr (Or.inr ⟨n, c, ns, u, entry, h, rfl⟩)

end

/-! ### Changes -/

variable {es : List (String × FileTree)} {n : String}

theorem IsWellFormed.setEntry (wf : (FileTree.directory es).IsWellFormed) (name : IsEntryName n)
    (hc : c.IsWellFormed) : (FileTree.directory (Conform.setEntry (· == ·) n c es)).IsWellFormed := by
  cases wf with
  | directory distinct names entries =>
    refine .directory (nodup_keys_setEntry distinct) (fun e he => ?_) fun e he => ?_
    · rcases mem_setEntry_beq he with rfl | he
      · exact name
      · exact names e he
    · rcases mem_setEntry_beq he with rfl | he
      · exact hc
      · exact entries e he

theorem isWellFormed_directory_nil : (directory []).IsWellFormed :=
  .directory List.nodup_nil (List.forall_mem_nil _) (List.forall_mem_nil _)

theorem IsWellFormed.entries (wf : t.IsWellFormed) : (FileTree.directory t.entries).IsWellFormed := by
  cases wf with
  | file => exact isWellFormed_directory_nil
  | link => exact isWellFormed_directory_nil
  | device => exact isWellFormed_directory_nil
  | directory distinct names entries => exact .directory distinct names entries

/-- What is changed at a place stays well-formed, and so do the directories on the way. -/
theorem isWellFormed_updateAt {f : Option FileTree → FileTree}
    (hf : ∀ t : Option FileTree, (∀ u ∈ t, u.IsWellFormed) → (f t).IsWellFormed)
    (names : ∀ n ∈ ns, IsEntryName n) {t : Option FileTree} (wf : ∀ u ∈ t, u.IsWellFormed) :
    (updateAt f ns t).IsWellFormed := by
  induction ns generalizing t with
  | nil => exact hf t wf
  | cons n ns ih =>
    obtain ⟨name, names⟩ := List.forall_mem_cons.mp names
    have here : (t.getD (directory [])).IsWellFormed := by
      cases t with
      | none => exact isWellFormed_directory_nil
      | some t => exact wf t rfl
    exact here.entries.setEntry name (ih names fun u child => here.child? child)

theorem IsWellFormed.remove (wf : t.IsWellFormed) : (t.remove ns).IsWellFormed := by
  induction ns generalizing t with
  | nil => exact wf
  | cons n ns ih =>
    cases wf with
    | file => cases ns <;> exact .file _
    | link => cases ns <;> exact .link _
    | device => cases ns <;> exact .device
    | directory distinct names entries =>
      cases ns with
      | nil =>
        refine .directory (distinct.sublist (List.filter_sublist.map _)) (fun e he => ?_)
          fun e he => ?_
        · exact names e (List.mem_of_mem_filter he)
        · exact entries e (List.mem_of_mem_filter he)
      | cons k ns =>
        simp only [FileTree.remove]
        split
        · rename_i c child
          have entry := (child?_eq_some_iff distinct).mp child
          exact (IsWellFormed.directory distinct names entries).setEntry (names _ entry)
            (ih (entries _ entry))
        · exact .directory distinct names entries

end FileTree

namespace Files

open FileTree

/-- Whether both trees are well-formed. -/
structure IsWellFormed (fs : Files) : Prop where
  here : fs.here.IsWellFormed
  top : fs.top.IsWellFormed

/-- Whether there is a regular file at a path. -/
def IsFile (fs : Files) (p : FilePath) : Prop := ∃ bytes, fs.find? p = some (.file bytes)

variable {fs : Files} {d p : FilePath} {t u : FileTree} {ns : List String}

theorem IsWellFormed.start (wf : fs.IsWellFormed) (p : FilePath) : (fs.start p).IsWellFormed := by
  unfold Files.start
  split
  · exact wf.here
  · exact wf.top

theorem IsWellFormed.find? (wf : fs.IsWellFormed) (h : fs.find? p = some t) : t.IsWellFormed :=
  isWellFormed_of_follow? (by simpa using ⟨wf.top, wf.start p⟩) h

/-! ### Steps -/

/-- There are no files at first but the device that is always known. -/
theorem isWellFormed_new : ({} : Files).IsWellFormed where
  here := isWellFormed_directory_nil
  top := by
    have dev : (directory [("null", .device)]).IsWellFormed :=
      .directory (by decide) (by decide) (by simpa using .device)
    exact .directory (by decide) (by decide) (by simpa using dev)

theorem IsWellFormed.modify (wf : fs.IsWellFormed) {f : FileTree → FileTree}
    (hf : ∀ t : FileTree, t.IsWellFormed → (f t).IsWellFormed) : (fs.modify p f).IsWellFormed := by
  unfold Files.modify
  split
  · exact ⟨hf _ wf.here, wf.top⟩
  · exact ⟨wf.here, hf _ wf.top⟩

/-- Files stay well-formed when one is written. -/
theorem IsWellFormed.write (wf : fs.IsWellFormed) (names : ∀ n ∈ p.names, IsEntryName n)
    (bytes : List UInt8) : (fs.write p bytes).IsWellFormed :=
  wf.modify fun _ ht => isWellFormed_updateAt (fun _ _ => .file bytes) names (by simpa using ht)

/-- Files stay well-formed when a link is made. -/
theorem IsWellFormed.makeLink (wf : fs.IsWellFormed) (names : ∀ n ∈ p.names, IsEntryName n)
    (target : FilePath) : (fs.makeLink p target).IsWellFormed :=
  wf.modify fun _ ht => isWellFormed_updateAt (fun _ _ => .link target) names (by simpa using ht)

/-- Files stay well-formed when a directory is made, which keeps what it holds. -/
theorem IsWellFormed.makeDirectory (wf : fs.IsWellFormed) (names : ∀ n ∈ p.names, IsEntryName n) :
    (fs.makeDirectory p).IsWellFormed := by
  refine wf.modify fun _ ht => isWellFormed_updateAt (fun t wf => ?_) names (by simpa using ht)
  cases t with
  | none => exact isWellFormed_directory_nil
  | some t => exact (wf t rfl).entries

/-- Files stay well-formed when something is removed. -/
theorem IsWellFormed.remove (wf : fs.IsWellFormed) : (fs.remove p).IsWellFormed :=
  wf.modify fun _ ht => ht.remove

/-! ### Paths below a directory -/

theorem find?_belowAll_eq_none (h : fs.find? d = none) (ns : List String) :
    fs.find? (d.belowAll ns) = none :=
  follow?_append_eq_none h ns

/-- What is behind the path of a place is what following leads to from this place. -/
theorem find?_belowAll (h : fs.find? d = some t) : ∃ links rooted above, ∀ ns,
    fs.find? (d.belowAll ns) = FileTree.follow? fs.top links rooted above t ns :=
  follow?_append h

variable {n : String}

theorem find?_below (h : fs.find? d = some t) (ascent : n ≠ "..") (child : t.child? n = some u)
    (direct : u.isLink = false) : fs.find? (d.below n) = some u := by
  obtain ⟨links, rooted, above, rest⟩ := find?_belowAll h
  refine (rest [n]).trans ((follow?_child ascent child direct []).trans ?_)
  cases links <;> rfl

theorem find?_below_eq_none (h : fs.find? d = some t) (ascent : n ≠ "..") (child : t.child? n = none) :
    fs.find? (d.below n) = none := by
  obtain ⟨links, rooted, above, rest⟩ := find?_belowAll h
  exact (rest [n]).trans (follow?_missing ascent child [])

theorem isSome_of_find?_below (there : (fs.find? (d.below n)).isSome) : (fs.find? d).isSome := by
  rw [Option.isSome_iff_ne_none] at there ⊢
  intro missing
  exact there (find?_belowAll_eq_none missing [n])

/-- Nothing lies below what is no directory. -/
theorem isDirectory_of_find?_below (h : fs.find? d = some t) (ascent : n ≠ "..")
    (there : (fs.find? (d.below n)).isSome) : t.isDirectory = true := by
  cases child : t.child? n with
  | none =>
    rw [find?_below_eq_none h ascent child] at there
    cases there
  | some c => cases t <;> first | rfl | cases child

/-- What names lead down to is at its path, unless it is a link. -/
theorem find?_of_leads (wf : fs.IsWellFormed) (h : fs.find? d = some t) (leads : Leads t ns u)
    (direct : u.isLink = false) : fs.find? (d.belowAll ns) = some u := by
  induction leads generalizing d with
  | here => rwa [belowAll_nil]
  | @down es n c u ns entry rest ih =>
    cases wf.find? h with
    | directory distinct names entries =>
      have child := (child?_eq_some_iff distinct).mpr entry
      have unlinked : c.isLink = false := by
        cases rest with
        | here => exact direct
        | down => rfl
      rw [belowAll_cons]
      exact ih (find?_below h (names _ entry).noAscent child unlinked) direct

/-- Whether a path is that of a symbolic link. -/
def IsLink (fs : Files) (p : FilePath) : Prop := ∃ d t n target,
  p = FilePath.below d n ∧ fs.find? d = some t ∧ t.child? n = some (.link target)

theorem isLink_of_leads (wf : fs.IsWellFormed) (h : fs.find? d = some t) (leads : Leads t ns u)
    (linked : u.isLink = true) (ne : ns ≠ []) : fs.IsLink (d.belowAll ns) := by
  induction leads generalizing d with
  | here => exact absurd rfl ne
  | @down es n c u ns entry rest ih =>
    cases wf.find? h with
    | directory distinct names entries =>
      have child := (child?_eq_some_iff distinct).mpr entry
      rw [belowAll_cons]
      cases rest with
      | here =>
        obtain ⟨target, rfl⟩ := exists_link linked
        exact ⟨d, _, n, target, belowAll_nil _, h, child⟩
      | down entry' rest =>
        exact ih (find?_below h (names _ entry).noAscent child rfl) linked (by simp)

/-- Whether a path is that of a link to a directory. -/
structure IsLinkedDirectory (fs : Files) (p : FilePath) : Prop where
  link : fs.IsLink p
  directory : ∃ es, fs.find? p = some (.directory es)

/-- Whether a path leads to below a directory through no link to a directory. -/
structure IsDirectlyBelow (fs : Files) (p d : FilePath) : Prop where
  below : p.IsBelow d
  direct : ∀ q : FilePath, q.IsBelow d → p.IsBelow q → ¬fs.IsLinkedDirectory q

/-- The names on the way to what is found can stand in directories. -/
theorem names_of_find?_belowAll (wf : fs.IsWellFormed) (noAscent : ".." ∉ ns)
    (there : (fs.find? (d.belowAll ns)).isSome) : ∀ n ∈ ns, IsEntryName n := by
  induction ns generalizing d with
  | nil => simp
  | cons n ns ih =>
    rw [List.mem_cons, not_or] at noAscent
    obtain ⟨ascent, noAscent⟩ := noAscent
    have next : (fs.find? (d.below n)).isSome := by
      rw [Option.isSome_iff_ne_none] at there ⊢
      intro missing
      exact there (by rw [belowAll_cons, find?_belowAll_eq_none missing])
    obtain ⟨t, h⟩ := Option.isSome_iff_exists.mp (isSome_of_find?_below next)
    refine List.forall_mem_cons.mpr ⟨?_, ih noAscent (by rwa [← belowAll_cons])⟩
    obtain ⟨es, rfl⟩ := exists_directory (isDirectory_of_find?_below h (Ne.symm ascent) next)
    cases child : (FileTree.directory es).child? n with
    | none =>
      rw [find?_below_eq_none h (Ne.symm ascent) child] at next
      cases next
    | some c =>
      cases wf.find? h with
      | directory distinct names _ => exact names _ ((child?_eq_some_iff distinct).mp child)

/-- Nothing lies between a directory and its entries. -/
theorem isDirectlyBelow_below (ascent : n ≠ "..") : fs.IsDirectlyBelow (d.below n) d where
  below := ⟨[n], by simp, by simpa using ascent.symm, rfl⟩
  direct := by
    rintro q ⟨ms, ne, -, rfl⟩ ⟨ns, ne', -, same⟩
    have length := congrArg (fun p : FilePath => p.names.length) same
    have := List.length_pos_iff.mpr ne
    have := List.length_pos_iff.mpr ne'
    simp only [FilePath.below, FilePath.belowAll, List.length_append, List.length_singleton] at length
    omega

/-- **What is found below a directory through no link to a directory is led down to**, as it is or as a
link to it. -/
theorem exists_leads_of_find? (wf : fs.IsWellFormed) (h : fs.find? d = some t) (noAscent : ".." ∉ ns)
    (direct : ∀ q : FilePath, q.IsBelow d → (d.belowAll ns).IsBelow q → ¬fs.IsLinkedDirectory q)
    (found : fs.find? (d.belowAll ns) = some u) :
    ∃ w, Leads t ns w ∧ (w.isLink = true ∧ ns ≠ [] ∨ w = u) := by
  induction ns generalizing d t with
  | nil =>
    rw [belowAll_nil, h] at found
    obtain rfl := Option.some.inj found
    exact ⟨t, .here t, .inr rfl⟩
  | cons n ns ih =>
    rw [List.mem_cons, not_or] at noAscent
    obtain ⟨ascent, noAscent⟩ := noAscent
    have ascent : n ≠ ".." := Ne.symm ascent
    rw [belowAll_cons] at found
    cases child : t.child? n with
    | none =>
      have missing := find?_belowAll_eq_none (find?_below_eq_none h ascent child) ns
      cases missing.symm.trans found
    | some c =>
      obtain ⟨es, rfl⟩ : ∃ es, t = .directory es := by
        cases t with
        | directory es => exact ⟨es, rfl⟩
        | _ => cases child
      cases wf.find? h with
      | directory distinct names entries =>
        have entry := (child?_eq_some_iff distinct).mp child
        cases linked : c.isLink with
        | true =>
          -- A link on the way would have to lead to a directory.
          cases ns with
          | nil => exact ⟨c, .down entry (.here c), .inl ⟨linked, by simp⟩⟩
          | cons m ns =>
            have next : (fs.find? ((d.below n).below m)).isSome := by
              rw [Option.isSome_iff_ne_none]
              intro missing
              have behind := find?_belowAll_eq_none missing ns
              rw [← belowAll_cons] at behind
              cases behind.symm.trans found
            have step : m ≠ ".." := fun h => noAscent (by simp [h])
            obtain ⟨v, leadsTo⟩ := Option.isSome_iff_exists.mp (isSome_of_find?_below next)
            obtain ⟨es', rfl⟩ := exists_directory (isDirectory_of_find?_below leadsTo step next)
            obtain ⟨target, rfl⟩ := exists_link linked
            have below : (d.below n).IsBelow d := ⟨[n], by simp, by simpa using ascent.symm, rfl⟩
            refine absurd ?_ (direct (d.below n) below ⟨m :: ns, by simp, noAscent, belowAll_cons ..⟩)
            exact ⟨⟨d, _, n, target, rfl, h, child⟩, ⟨es', leadsTo⟩⟩
        | false =>
          have here := find?_below h ascent child linked
          have deeper : ∀ q : FilePath, q.IsBelow (d.below n) →
              ((d.below n).belowAll ns).IsBelow q → ¬fs.IsLinkedDirectory q := by
            rintro q ⟨ms, -, noAscent', rfl⟩
            rw [← belowAll_cons, ← belowAll_cons]
            exact direct _ ⟨n :: ms, by simp, by simpa using ⟨ascent.symm, noAscent'⟩, rfl⟩
          obtain ⟨w, leads, hw⟩ := ih here noAscent deeper found
          exact ⟨w, .down entry leads, hw.imp (fun h => ⟨h.1, by simp⟩) id⟩

end Files

end Conform

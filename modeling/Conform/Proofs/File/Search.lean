import Conform.File.Search
import Conform.Proofs.File.Tree
/-!
# What a search finds

A search puts together what its arguments stand for.  As paths with the same parts are the same, none
of it is lost when it is put in order (`mem_search_iff`), and the order leaves nothing else to be said:
the result is the only list in order with these paths (`search_isSortedUnion`).

A file that is named is found if something ends it with a suffix, and what lies in a directory if a
suffix ends its name; the two differ for a name that is a suffix alone, and only the first asks for a
file (`search_agrees_with_naming`).  What lies behind a link to a directory is found where the link is named,
and not where it lies in a directory.
-/
namespace Conform

open FilePath FileTree

namespace FilePath

variable {p q d : FilePath} {ns : List String}

theorem IsProper.belowAll (hd : d.IsProper) (hns : ∀ n ∈ ns, IsName n) :
    (d.belowAll ns).IsProper := fun n hn =>
  (List.mem_append.mp hn).elim (hd n) (hns n)

/-- The text of a root holds a separator, which no name does. -/
theorem not_isName_root {r : FileRoot} (h : r ≠ .here) : ¬IsName r.text := by
  intro name
  cases r with
  | here => exact h rfl
  | single => exact name.noSeparator (by decide)
  | double => exact name.noSeparator (by decide)

theorem text_injective : Function.Injective FileRoot.text := by
  intro r s h
  cases r <;> cases s <;> first | rfl | exact absurd h (by decide)

/-- Paths that can be shown are told apart by their parts. -/
theorem eq_of_parts_eq (hp : p.IsProper) (hq : q.IsProper) (same : p.parts = q.parts) : p = q := by
  obtain ⟨r, ms⟩ := p
  obtain ⟨s, ns⟩ := q
  unfold parts at same
  -- Only a root puts a part in front of the names, and its text is no name.
  split at same <;> split at same
  · simp_all
  · rename_i hs
    exact absurd (hp s.text (by subst same; simp)) (not_isName_root hs)
  · rename_i hr _
    exact absurd (hq r.text (by subst same; simp)) (not_isName_root hr)
  · obtain ⟨root, names⟩ := List.cons.inj same
    rw [mk.injEq]
    exact ⟨text_injective root, names⟩

theorem not_isBelow_self (p : FilePath) : ¬p.IsBelow p := by
  rintro ⟨ns, ne, -, h⟩
  exact ne (belowAll_injective p (h.symm.trans (belowAll_nil p).symm))

/-! ### Suffixes -/

/-- A suffix is a point with what follows it up to the end of the name, where something stands
before it. -/
theorem suffix_eq_iff {w : List Char} (ne : w ≠ []) (noPoint : '.' ∉ w) :
    p.suffix = String.ofList ('.' :: w) ↔ ∃ stem, stem ≠ [] ∧ p.name.toList = stem ++ '.' :: w := by
  have filled : String.ofList ('.' :: w) ≠ "" := fun h => by
    simpa using congrArg String.toList h
  rw [suffix]
  generalize p.name.toList = cs
  constructor
  · intro h
    split at h
    · exact absurd h.symm filled
    · rename_i start
      rw [not_or, Nat.not_le] at start
      have tail : cs.drop (cs.length - (cs.reverse.takeWhile (· ≠ '.')).length - 1) = '.' :: w := by
        simpa using congrArg String.toList h
      refine ⟨cs.take (cs.length - (cs.reverse.takeWhile (· ≠ '.')).length - 1), ?_, ?_⟩
      · intro empty
        have := List.take_eq_nil_iff.mp empty
        rcases this with h | rfl
        · omega
        · simp at start
      · rw [← tail, List.take_append_drop]
  · rintro ⟨stem, hstem, rfl⟩
    -- Read from its end, the name goes on to the last point, which is the one before `w`.
    have tail : (stem ++ '.' :: w).reverse.takeWhile (· ≠ '.') = w.reverse := by
      rw [List.reverse_append, List.reverse_cons, List.append_assoc]
      exact takeWhile_eq (by simpa using fun c hc => ne_of_mem_of_not_mem hc noPoint) (by simp)
    have long := List.length_pos_iff.mpr hstem
    have start : (stem ++ '.' :: w).length - w.reverse.length = stem.length + 1 := by
      simp only [List.length_append, List.length_cons, List.length_reverse]
      omega
    rw [tail, start, if_neg (by simp [ne]; omega)]
    simp

end FilePath

namespace Files

/-! ### Suffixes of instances -/

/-- **A file that is named counts if a suffix ends its name, which is not the suffix alone.** -/
theorem hasInstanceSuffix_iff {p : FilePath} :
    hasInstanceSuffix p = true ↔ endsLikeInstance p = true ∧ p.name ∉ instanceSuffixes := by
  -- Each suffix is a point and letters.
  have each : ∀ s ∈ instanceSuffixes, (p.suffix = s ↔ s.toList <:+ p.name.toList ∧ p.name ≠ s) := by
    intro s hs
    obtain ⟨w, rfl, ne, noPoint⟩ : ∃ w, s = String.ofList ('.' :: w) ∧ w ≠ [] ∧ '.' ∉ w := by
      refine ⟨s.toList.tail, ?_⟩
      revert s
      decide
    rw [suffix_eq_iff ne noPoint, String.toList_ofList]
    constructor
    · rintro ⟨stem, hstem, h⟩
      refine ⟨⟨stem, h.symm⟩, fun same => hstem ?_⟩
      rw [same, String.toList_ofList] at h
      exact List.self_eq_append_left.mp h
    · rintro ⟨⟨stem, h⟩, other⟩
      refine ⟨stem, ?_, h.symm⟩
      rintro rfl
      exact other (by rw [← String.ofList_toList (s := p.name), ← h, List.nil_append])
  have apart : ∀ s ∈ instanceSuffixes, ∀ t ∈ instanceSuffixes, s.toList <:+ t.toList → t = s := by
    decide
  -- None of them ends another one, so it is the same one that ends the name.
  rw [hasInstanceSuffix, endsLikeInstance, List.contains_iff_mem, List.any_eq_true]
  simp only [List.isSuffixOf_iff_suffix]
  constructor
  · intro h
    obtain ⟨ends, other⟩ := (each _ h).mp rfl
    refine ⟨⟨_, h, ends⟩, fun named => other ?_⟩
    exact apart _ h _ named ends
  · rintro ⟨⟨s, hs, ends⟩, other⟩
    rw [(each s hs).mpr ⟨ends, fun same => other (same ▸ hs)⟩]
    exact hs

/-! ### What an argument stands for -/

variable {fs : Files} {d p q : FilePath}

/-- Whether a search for a path that is named itself finds it. -/
structure IsFoundNamed (fs : Files) (p : FilePath) : Prop where
  file : fs.IsFile p
  suffix : hasInstanceSuffix p = true

/-- Whether something lies in a directory: entries lead down to it. -/
def LiesIn (fs : Files) (d p : FilePath) : Prop :=
  ∃ t ns u, fs.find? d = some t ∧ ns ≠ [] ∧ Leads t ns u ∧ p = d.belowAll ns

/-- Whether a search in a directory finds a path. -/
structure IsFoundIn (fs : Files) (d p : FilePath) : Prop where
  lies : fs.LiesIn d p
  ends : endsLikeInstance p = true

theorem liesIn_iff {t : FileTree} (found : fs.find? d = some t) :
    fs.LiesIn d p ↔ p ∈ t.contents d := by
  rw [mem_contents_iff]
  constructor
  · rintro ⟨t', ns, u, found', ne, leads, rfl⟩
    obtain rfl := Option.some.inj (found.symm.trans found')
    exact ⟨ns, u, ne, leads, rfl⟩
  · rintro ⟨ns, u, ne, leads, rfl⟩
    exact ⟨t, ns, u, found, ne, leads, rfl⟩

theorem isFoundIn_iff {t : FileTree} (found : fs.find? d = some t) :
    fs.IsFoundIn d p ↔ p ∈ (t.contents d).filter endsLikeInstance := by
  rw [List.mem_filter, ← liesIn_iff found]
  exact ⟨fun h => ⟨h.lies, h.ends⟩, fun ⟨lies, ends⟩ => ⟨lies, ends⟩⟩

theorem LiesIn.isBelow (wf : fs.IsWellFormed) (h : fs.LiesIn d p) : p.IsBelow d := by
  obtain ⟨t, ns, u, found, ne, leads, rfl⟩ := h
  exact ⟨ns, ne, leads.noAscent (wf.find? found), rfl⟩

/-- What lies in a directory can be shown if the directory can. -/
theorem LiesIn.isProper (wf : fs.IsWellFormed) (h : fs.LiesIn d p) (hd : d.IsProper) : p.IsProper := by
  obtain ⟨t, ns, u, found, -, leads, rfl⟩ := h
  exact hd.belowAll fun n hn => (leads.names (wf.find? found) n hn).toIsName

/-- What lies in a directory is there, but for a link that leads nowhere. -/
theorem LiesIn.there (wf : fs.IsWellFormed) (h : fs.LiesIn d p) :
    (fs.find? p).isSome ∨ fs.IsLink p := by
  obtain ⟨t, ns, u, found, ne, leads, rfl⟩ := h
  cases linked : u.isLink with
  | true => exact .inr (isLink_of_leads wf found leads linked ne)
  | false => exact .inl (by rw [find?_of_leads wf found leads linked]; rfl)

/-- What is found below a directory, through no link to a directory, lies in it. -/
theorem IsDirectlyBelow.liesIn (wf : fs.IsWellFormed) (h : fs.IsDirectlyBelow p d)
    (there : (fs.find? p).isSome) : fs.LiesIn d p := by
  obtain ⟨⟨ns, ne, noAscent, rfl⟩, direct⟩ := h
  obtain ⟨u, hu⟩ := Option.isSome_iff_exists.mp there
  cases found : fs.find? d with
  | none => cases (find?_belowAll_eq_none found ns).symm.trans hu
  | some t =>
    obtain ⟨w, leads, -⟩ := exists_leads_of_find? wf found noAscent direct hu
    exact ⟨t, ns, w, found, ne, leads, rfl⟩

/-- What lies in a directory that is no link lies in every directory above it. -/
theorem LiesIn.trans (wf : fs.IsWellFormed) (h : fs.LiesIn q p) (g : fs.IsDirectlyBelow q d)
    (direct : ¬fs.IsLinkedDirectory q) : fs.LiesIn d p := by
  obtain ⟨u, ms, v, hu, ne', leads', rfl⟩ := h
  obtain ⟨⟨ns, ne, noAscent, rfl⟩, free⟩ := g
  cases found : fs.find? d with
  | none => cases (find?_belowAll_eq_none found ns).symm.trans hu
  | some t =>
    obtain ⟨w, leads, ⟨linked, -⟩ | rfl⟩ := exists_leads_of_find? wf found noAscent free hu
    · -- There is something in the directory, so the link would be one to a directory.
      refine absurd ⟨isLink_of_leads wf found leads linked ne, ?_⟩ direct
      cases leads' with
      | here => exact absurd rfl ne'
      | down => exact ⟨_, hu⟩
    · exact ⟨t, ns ++ ms, v, found, by simp [ne], leads.trans leads', belowAll_belowAll ..⟩

/-- An argument stands for itself if it is found by its name, and for what is found in it. -/
theorem mem_instancesAt_iff : p ∈ (fs.instancesAt d).outcome ↔
    (p = d ∧ fs.IsFoundNamed d) ∨ fs.IsFoundIn d p := by
  -- Only a file is found by its own name.
  have notNamed {t : FileTree} (found : fs.find? d = some t) (other : ∀ bytes, t ≠ .file bytes) :
      ¬fs.IsFoundNamed d := by
    rintro ⟨⟨bytes, file⟩, -⟩
    exact other bytes (Option.some.inj (found.symm.trans file))
  unfold instancesAt
  split
  · rename_i missing
    refine iff_of_false List.not_mem_nil ?_
    rintro (⟨-, ⟨bytes, file⟩, -⟩ | ⟨⟨t, -, -, found, -⟩, -⟩)
    · cases missing.symm.trans file
    · cases missing.symm.trans found
  · rename_i bytes found
    have named : fs.IsFoundNamed d ↔ hasInstanceSuffix d = true :=
      ⟨fun h => h.suffix, fun h => ⟨⟨bytes, found⟩, h⟩⟩
    rw [named, isFoundIn_iff found]
    cases hasInstanceSuffix d <;> simp [Logged.after, Logged.silent, contents]
  · rename_i es found
    rw [isFoundIn_iff found, contents, or_iff_right fun h => notNamed found (by simp) h.2]
    rfl
  · rename_i t noFile noDirectory found
    rw [isFoundIn_iff found, or_iff_right fun h => notNamed found noFile h.2]
    have none : t.contents d = [] := by
      cases t with
      | directory es => exact absurd rfl (noDirectory es)
      | _ => rfl
    simp [Logged.after, none]

/-! ### The order of the result -/

/-- Whether paths stand in order, none of them twice. -/
def IsOrdered (ps : List FilePath) : Prop := ps.Pairwise (·.parts < ·.parts)

theorem IsOrdered.nodup {ps : List FilePath} (h : IsOrdered ps) : ps.Nodup :=
  h.imp fun {p q} lt => by
    rintro rfl
    exact List.lt_irrefl _ lt

theorem mem_of_mem_insertPath {ps : List FilePath} (h : q ∈ insertPath p ps) : q = p ∨ q ∈ ps := by
  induction ps with
  | nil => exact Or.inl (List.mem_singleton.mp h)
  | cons r ps ih =>
    rw [insertPath] at h
    split at h
    · exact List.mem_cons.mp h
    · split at h
      · rcases List.mem_cons.mp h with rfl | h
        · exact Or.inr List.mem_cons_self
        · exact (ih h).imp_right (List.mem_cons_of_mem _)
      · exact Or.inr h

/-- Nothing is lost among paths that can be shown. -/
theorem mem_insertPath_iff {ps : List FilePath} (hp : p.IsProper) (proper : ∀ q ∈ ps, q.IsProper) :
    q ∈ insertPath p ps ↔ q = p ∨ q ∈ ps := by
  refine ⟨mem_of_mem_insertPath, ?_⟩
  induction ps with
  | nil => simp [insertPath]
  | cons r ps ih =>
    obtain ⟨hr, proper⟩ := List.forall_mem_cons.mp proper
    rw [insertPath]
    split
    · exact List.mem_cons.mpr
    · rename_i notLt
      split
      · rintro (rfl | h)
        · exact List.mem_cons_of_mem _ (ih proper (Or.inl rfl))
        · rcases List.mem_cons.mp h with rfl | h
          · exact List.mem_cons_self
          · exact List.mem_cons_of_mem _ (ih proper (Or.inr h))
      · -- Neither comes before the other, so they have the same parts.
        rename_i notGt
        obtain rfl : p = r := eq_of_parts_eq hp hr (List.le_antisymm notGt notLt)
        rintro (rfl | h)
        · exact List.mem_cons_self
        · exact h

theorem mem_inOrder_iff {ps : List FilePath} (proper : ∀ p ∈ ps, p.IsProper) :
    q ∈ inOrder ps ↔ q ∈ ps := by
  induction ps generalizing q with
  | nil => rfl
  | cons p ps ih =>
    obtain ⟨hp, proper⟩ := List.forall_mem_cons.mp proper
    rw [inOrder, List.foldr_cons, List.mem_cons]
    change q ∈ insertPath p (inOrder ps) ↔ _
    rw [mem_insertPath_iff hp fun r hr => proper r ((ih proper).mp hr), ih proper]

/-! ### Searches -/

/-- What is found for the arguments of a line. -/
def instances (fs : Files) (arguments : List String) : List FilePath :=
  (fs.search (arguments.map FilePath.ofString)).outcome

/-- **What a search finds** is what its arguments stand for. -/
theorem mem_search_iff (wf : fs.IsWellFormed) {arguments : List String} :
    p ∈ fs.instances arguments ↔ ∃ s ∈ arguments,
      (p = .ofString s ∧ fs.IsFoundNamed (.ofString s)) ∨ fs.IsFoundIn (.ofString s) p := by
  have found : ∀ q, q ∈ ((arguments.map FilePath.ofString).map fs.instancesAt).flatMap (·.outcome) ↔
      ∃ s ∈ arguments, q ∈ (fs.instancesAt (.ofString s)).outcome := by
    simp [List.mem_flatMap]
  rw [instances, search, mem_inOrder_iff, found]
  · exact exists_congr fun s => and_congr_right fun _ => mem_instancesAt_iff
  · intro q hq
    obtain ⟨s, -, hq⟩ := (found q).mp hq
    rcases mem_instancesAt_iff.mp hq with ⟨rfl, -⟩ | inside
    · exact isProper_ofString s
    · exact inside.lies.isProper wf (isProper_ofString s)

/-- What is found is there but for broken links, and its text stands for it. -/
theorem there_of_mem_instances (wf : fs.IsWellFormed) {arguments : List String}
    (h : p ∈ fs.instances arguments) :
    ((fs.find? p).isSome ∨ fs.IsLink p) ∧ endsLikeInstance p = true ∧ p.IsProper := by
  obtain ⟨s, -, ⟨rfl, ⟨bytes, file⟩, suffix⟩ | inside⟩ := (mem_search_iff wf).mp h
  · exact ⟨.inl (by rw [file]; rfl), (hasInstanceSuffix_iff.mp suffix).1, isProper_ofString s⟩
  · exact ⟨inside.lies.there wf, inside.ends, inside.lies.isProper wf (isProper_ofString s)⟩

/-- What is named alone is found by its name or not at all. -/
theorem mem_instances_text_iff (wf : fs.IsWellFormed) (proper : p.IsProper) :
    p ∈ fs.instances [p.text] ↔ fs.IsFoundNamed p := by
  have itself : ¬fs.IsFoundIn p p := fun h => not_isBelow_self p (h.lies.isBelow wf)
  simp [mem_search_iff wf, ofString_text proper, itself]

theorem IsFile.there (h : fs.IsFile p) : (fs.find? p).isSome := by
  obtain ⟨bytes, found⟩ := h
  rw [found]
  rfl

/-- **Searching a directory and naming a file agree** on the files below it whose name is no suffix
alone and that are reached through no link to a directory.  Whatever a search finds is there or is a broken
link; a search for it alone finds it exactly if it is a file with such a name.  What a search for it alone
finds is found in every directory above it that it is reached from so, and any file below a directory that has
a suffix is found alone. -/
theorem search_agrees_with_naming (wf : fs.IsWellFormed) (arguments : List String) :
    (∀ p ∈ fs.instances arguments, ((fs.find? p).isSome ∨ fs.IsLink p) ∧
      (p ∈ fs.instances [p.text] ↔ fs.IsFile p ∧ p.name ∉ instanceSuffixes)) ∧
    (∀ d ∈ arguments, ∀ p : FilePath, fs.IsDirectlyBelow p (.ofString d) →
      p ∈ fs.instances [p.text] → p ∈ fs.instances arguments) ∧
    ∀ d ∈ arguments, ∀ p : FilePath, p.IsBelow (.ofString d) → fs.IsFile p →
      hasInstanceSuffix p = true → p ∈ fs.instances [p.text] := by
  refine ⟨?_, ?_, ?_⟩
  · intro p hp
    -- What is found ends like an instance in any case; named alone, its suffix counts.
    obtain ⟨there, ends, proper⟩ := there_of_mem_instances wf hp
    refine ⟨there, (mem_instances_text_iff wf proper).trans ?_⟩
    constructor
    · exact fun h => ⟨h.file, (hasInstanceSuffix_iff.mp h.suffix).2⟩
    · exact fun h => ⟨h.1, hasInstanceSuffix_iff.mpr ⟨ends, h.2⟩⟩
  · intro d hd p below hp
    obtain ⟨-, ends, proper⟩ := there_of_mem_instances wf hp
    have named := (mem_instances_text_iff wf proper).mp hp
    exact (mem_search_iff wf).mpr ⟨d, hd, .inr ⟨below.liesIn wf named.file.there, ends⟩⟩
  · rintro d - p ⟨ns, -, noAscent, rfl⟩ file suffix
    -- The path has a text that stands for it, as all its names are names of entries.
    have names := names_of_find?_belowAll wf noAscent file.there
    have proper := (isProper_ofString d).belowAll fun n hn => (names n hn).toIsName
    exact (mem_instances_text_iff wf proper).mpr ⟨file, suffix⟩

/-- Files, directories and links named like instances, one directory in another. -/
def mixedFiles : Files :=
  ({} : Files).write { names := ["sub", "d.json", "c.json"] } []
    |>.write { names := ["sub", "b.yml"] } []
    |>.write { names := [".yaml"] } []
    |>.write { names := ["a.yaml"] } []
    |>.makeLink { names := ["sub", "e.yaml"] } { names := ["..", "a.yaml"] }
    |>.makeLink { names := ["sub", "f.json"] } { names := ["missing"] }
    |>.makeLink { names := ["sub", "g"] } { names := ["d.json"] }

theorem isWellFormed_mixedFiles : mixedFiles.IsWellFormed := by
  have files := (((isWellFormed_new.write (p := { names := ["sub", "d.json", "c.json"] })
    (by decide) []).write (p := { names := ["sub", "b.yml"] }) (by decide) []).write
    (p := { names := [".yaml"] }) (by decide) []).write (p := { names := ["a.yaml"] }) (by decide) []
  exact ((files.makeLink (by decide) _).makeLink (by decide) _).makeLink (by decide) _

theorem search_agrees_with_naming_mixed : mixedFiles.IsWellFormed ∧
    mixedFiles.instances ["."] = [{ names := [".yaml"] }, { names := ["a.yaml"] },
      { names := ["sub", "b.yml"] }, { names := ["sub", "d.json"] },
      { names := ["sub", "d.json", "c.json"] }, { names := ["sub", "e.yaml"] },
      { names := ["sub", "f.json"] }] ∧
    { names := ["sub", "e.yaml"] } ∈ mixedFiles.instances ["sub/e.yaml"] ∧
    { names := ["sub", "e.yaml"] } ∈ mixedFiles.instances ["sub", "missing"] ∧
    { names := ["sub", "g", "c.json"] } ∈ mixedFiles.instances ["sub/g/c.json"] := by
  have wf := isWellFormed_mixedFiles
  have found : mixedFiles.instances ["."] = [{ names := [".yaml"] }, { names := ["a.yaml"] },
      { names := ["sub", "b.yml"] }, { names := ["sub", "d.json"] },
      { names := ["sub", "d.json", "c.json"] }, { names := ["sub", "e.yaml"] },
      { names := ["sub", "f.json"] }] := by decide +kernel
  have named : { names := ["sub", "e.yaml"] } ∈ mixedFiles.instances ["sub/e.yaml"] :=
    ((search_agrees_with_naming wf ["."]).1 { names := ["sub", "e.yaml"] } (by simp [found])).2.mpr
      ⟨⟨[], rfl⟩, by decide⟩
  obtain ⟨-, inDirectory, file⟩ := search_agrees_with_naming wf ["sub", "missing"]
  have sub : FilePath.ofString "sub" = { names := ["sub"] } := by decide +kernel
  have inSub : { names := ["sub", "e.yaml"] } ∈ mixedFiles.instances ["sub", "missing"] := by
    refine inDirectory "sub" List.mem_cons_self _ ?_ named
    rw [sub]
    exact (isDirectlyBelow_below (by decide) : mixedFiles.IsDirectlyBelow
      (FilePath.below { names := ["sub"] } "e.yaml") { names := ["sub"] })
  have linked : { names := ["sub", "g", "c.json"] } ∈ mixedFiles.instances ["sub/g/c.json"] :=
    file "sub" List.mem_cons_self { names := ["sub", "g", "c.json"] }
      ⟨["g", "c.json"], by decide, by decide, by rw [sub]; rfl⟩ ⟨[], rfl⟩ (by decide +kernel)
  exact ⟨wf, found, named, inSub, linked⟩

/-- A directory named like an instance is found, but is no file and is not found by its name; a file
named by a suffix alone is found in its directory, but not by its name. -/
theorem directory_found_as_instance : mixedFiles.IsWellFormed ∧
    (∃ p ∈ mixedFiles.instances ["sub"], ¬mixedFiles.IsFile p ∧ p ∉ mixedFiles.instances [p.text]) ∧
    ∃ p ∈ mixedFiles.instances ["."], mixedFiles.IsFile p ∧ p ∉ mixedFiles.instances [p.text] := by
  refine ⟨isWellFormed_mixedFiles, ⟨{ names := ["sub", "d.json"] }, by decide +kernel, ?_,
    by decide +kernel⟩, { names := [".yaml"] }, by decide +kernel, ⟨[], rfl⟩, by decide +kernel⟩
  rintro ⟨bytes, file⟩
  cases file

/-- What lies behind a link to a directory is found where the link is named. -/
example : mixedFiles.instances ["sub/g"] = [{ names := ["sub", "g", "c.json"] }] := by decide +kernel

end Files

end Conform

import TestDispatch.Proofs.Executor.Run
/-!
# Where the logs go

The log of a test is `<work>/<build>/<ticket>/<test>.log`: the parts are joined with `/` and the
path cleaned (`joinPath`), each name first made safe as one path part (`safeName`).

Cleaning keeps a stack of parts (`cleanStep`): it drops empty and `.` parts, and a `..` takes back
the part below it unless that is a `..` too; at the root a `..` with nothing below is dropped.
What it leaves is `Stacked`, and cleaning a stacked list again changes nothing
(`foldl_cleanStep_of_stacked`). A joined path, written out and read again, is the same path
(`join_render`), so joining a joined path with more parts is joining all the parts at once
(`joinPath_joinPath`). A part that is a name of one level (`IsPathName`) is kept as it is after
the cleaned parts before it (`join_append_name`), whether the path starts at the root or not.

Main statement, `artifact_paths`: every result of a run has the log
`joinPath [work, build, ticket, test ++ ".log"]`, with safe names and the default build; when
neither the build nor the ticket is `.` or `..`, that is the cleaned work directory followed by
exactly three names of one level; and two tests get the same log exactly when their safe names
agree. The safe names of two different tests can agree (`tests_share_log`): `a b` and `a_b`
both write `a_b.log`.
-/

open scoped List

namespace TestDispatch.Executor

/-! ## The parts of a path -/

/-- The parts a list is split into hold no separator. -/
theorem not_mem_of_mem_splitOn {α : Type} [BEq α] [LawfulBEq α] (a : α) (xs : List α) :
    ∀ l ∈ xs.splitOn a, a ∉ l := by
  induction xs with
  | nil => simp
  | cons x xs ih =>
    rw [List.splitOn_cons_eq_if_modifyHead]
    split
    · -- `x` is a separator: it starts a new part
      intro l hl
      rcases List.mem_cons.1 hl with rfl | hl
      · simp
      · exact ih l hl
    · -- `x` joins the first part
      next hx =>
      obtain ⟨hd, tl, h⟩ := List.exists_cons_of_ne_nil (List.splitOn_ne_nil a xs)
      rw [h] at ih ⊢
      intro l hl
      rcases List.mem_cons.1 hl with rfl | hl
      · have hxa : x ≠ a := fun e => hx (by simp [e])
        simpa [Ne.symm hxa] using ih hd (List.mem_cons_self ..)
      · exact ih l (List.mem_cons_of_mem _ hl)

theorem slash_not_mem_of_mem_pathParts {s p : String} (h : p ∈ pathParts s) : '/' ∉ p.toList := by
  obtain ⟨l, hl, rfl⟩ := List.mem_map.1 h
  rw [String.toList_ofList]
  exact not_mem_of_mem_splitOn '/' s.toList l hl

/-- A path written from parts without `/` splits back into them. -/
theorem pathParts_intercalate {ps : List String} (hne : ps ≠ []) (h : ∀ p ∈ ps, '/' ∉ p.toList) :
    pathParts ("/".intercalate ps) = ps := by
  have hsep : "/".toList = ['/'] := rfl
  rw [pathParts, String.toList_intercalate, hsep,
    List.splitOn_intercalate '/' (by simpa using h) (by simpa using hne)]
  simp

theorem pathParts_of_slash_not_mem {s : String} (h : '/' ∉ s.toList) : pathParts s = [s] := by
  rw [pathParts, List.splitOn_eq_singleton h]
  simp [String.ofList_toList]

/-! ## Cleaning -/

section Cleaning

variable (rooted : Bool)

/-- One part pushed on the stack of a cleaning. -/
def cleanStep (acc : List String) (p : String) : List String :=
  if p = "" || p = "." then acc
  else if p = ".." then
    match acc with
    | q :: rest => if q = ".." then p :: acc else rest
    | [] => if rooted then [] else [p]
  else p :: acc

theorem cleanParts_eq (parts : List String) :
    cleanParts rooted parts = (parts.foldl (cleanStep rooted) []).reverse :=
  rfl

/-- A name of one level of a path: not empty, neither `.` nor `..`, and without `/`. -/
def IsPathName (p : String) : Prop := p ≠ "" ∧ p ≠ "." ∧ p ≠ ".." ∧ '/' ∉ p.toList

theorem cleanStep_name {p : String} (h : IsPathName p) (acc : List String) :
    cleanStep rooted acc p = p :: acc := by
  obtain ⟨h1, h2, h3, -⟩ := h
  simp [cleanStep, h1, h2, h3]

/-- The stack of a cleaning, the last part on top: no empty or `.` part, and a `..` only over
other `..` parts, and never at the root. -/
def Stacked : List String → Prop
  | [] => True
  | p :: rest =>
    p ≠ "" ∧ p ≠ "." ∧ (p = ".." → rooted = false ∧ ∀ q ∈ rest, q = "..") ∧ Stacked rest

theorem cleanStep_stacked {st : List String} (h : Stacked rooted st) (p : String) :
    Stacked rooted (cleanStep rooted st p) := by
  unfold cleanStep
  by_cases h1 : (p = "" || p = ".") = true
  · rw [if_pos h1]; exact h
  rw [if_neg h1]
  simp only [Bool.or_eq_true, decide_eq_true_eq, not_or] at h1
  by_cases h2 : p = ".."
  · rw [if_pos h2]
    cases st with
    | nil =>
      -- a `..` with nothing below: dropped at the root, kept elsewhere
      cases rooted with
      | true => trivial
      | false => exact ⟨h1.1, h1.2, fun _ => ⟨rfl, by simp⟩, trivial⟩
    | cons q rest =>
      dsimp only
      by_cases h3 : q = ".."
      · -- a `..` over a `..`: everything below is `..` too, away from the root
        rw [if_pos h3]
        obtain ⟨hroot, hrest⟩ := h.2.2.1 h3
        refine ⟨h1.1, h1.2, fun _ => ⟨hroot, fun r hr => ?_⟩, h⟩
        rcases List.mem_cons.1 hr with rfl | hr
        · exact h3
        · exact hrest r hr
      · -- a `..` takes back the part below
        rw [if_neg h3]; exact h.2.2.2
  · rw [if_neg h2]
    exact ⟨h1.1, h1.2, fun e => absurd e h2, h⟩

theorem foldl_cleanStep_stacked (ps : List String) {st : List String} (h : Stacked rooted st) :
    Stacked rooted (ps.foldl (cleanStep rooted) st) := by
  induction ps generalizing st with
  | nil => exact h
  | cons p ps ih => exact ih (cleanStep_stacked rooted h p)

theorem stacked_append_right {l t : List String} (h : Stacked rooted (l ++ t)) :
    Stacked rooted t := by
  induction l with
  | nil => exact h
  | cons x xs ih => exact ih h.2.2.2

/-- Cleaning parts that already lie on a stack as they would be pushed keeps each of them. -/
theorem foldl_cleanStep_of_stacked (ps st : List String) (h : Stacked rooted (ps.reverse ++ st)) :
    ps.foldl (cleanStep rooted) st = ps.reverse ++ st := by
  induction ps generalizing st with
  | nil => simp
  | cons p ps ih =>
    have h' : Stacked rooted (ps.reverse ++ p :: st) := by simpa using h
    obtain ⟨hp1, hp2, hdd, -⟩ : Stacked rooted (p :: st) := stacked_append_right rooted h'
    -- `p` is kept: it is a name, or a `..` over `..` parts only, away from the root
    have hpush : cleanStep rooted st p = p :: st := by
      unfold cleanStep
      rw [if_neg (by simp [hp1, hp2])]
      by_cases h2 : p = ".."
      · rw [if_pos h2]
        obtain ⟨hroot, hbelow⟩ := hdd h2
        cases st with
        | nil => rw [hroot, h2]; rfl
        | cons q rest => simp [hbelow q (List.mem_cons_self ..), h2]
      · rw [if_neg h2]
    rw [List.foldl_cons, hpush, ih (p :: st) h']
    simp

theorem cleanParts_stacked (ps : List String) : Stacked rooted (cleanParts rooted ps).reverse := by
  rw [cleanParts_eq, List.reverse_reverse]
  exact foldl_cleanStep_stacked rooted ps trivial

/-- Cleaning what was cleaned, with more parts after it, is cleaning all the parts at once. -/
theorem cleanParts_cleanParts_append (xs ys : List String) :
    cleanParts rooted (cleanParts rooted xs ++ ys) = cleanParts rooted (xs ++ ys) := by
  have hre : (cleanParts rooted xs).foldl (cleanStep rooted) [] =
      xs.foldl (cleanStep rooted) [] := by
    rw [foldl_cleanStep_of_stacked rooted _ [] (by simpa using cleanParts_stacked rooted xs)]
    simp [cleanParts_eq]
  rw [cleanParts_eq rooted (cleanParts rooted xs ++ ys), cleanParts_eq rooted (xs ++ ys),
    List.foldl_append, List.foldl_append, hre]

theorem cleanParts_append_name (ps : List String) {n : String} (h : IsPathName n) :
    cleanParts rooted (ps ++ [n]) = cleanParts rooted ps ++ [n] := by
  simp [cleanParts_eq, List.foldl_append, cleanStep_name rooted h]

/-- Empty and `.` parts in front are dropped. -/
theorem cleanParts_cons_of_empty {p : String} (h : p = "" ∨ p = ".") (ps : List String) :
    cleanParts rooted (p :: ps) = cleanParts rooted ps := by
  have hstep : cleanStep rooted [] p = [] := by
    rcases h with rfl | rfl <;> rfl
  rw [cleanParts_eq, cleanParts_eq, List.foldl_cons, hstep]

/-- What a cleaning step leaves was on the stack, or is the part pushed. -/
theorem mem_cleanStep {st : List String} {p q : String} (h : q ∈ cleanStep rooted st p) :
    q ∈ st ∨ q = p := by
  unfold cleanStep at h
  split at h
  · exact .inl h
  split at h
  · -- a `..`: it goes on the stack, takes back the part below, or is dropped at the root
    split at h
    · split at h
      · exact (List.mem_cons.1 h).symm
      · exact .inl (List.mem_cons_of_mem _ h)
    · split at h
      · cases h
      · exact .inr (List.mem_singleton.1 h)
  · exact (List.mem_cons.1 h).symm

theorem mem_foldl_cleanStep {ps st : List String} {q : String}
    (h : q ∈ ps.foldl (cleanStep rooted) st) : q ∈ st ∨ q ∈ ps := by
  induction ps generalizing st with
  | nil => exact .inl h
  | cons p ps ih =>
    rcases ih h with h | h
    · rcases mem_cleanStep rooted h with h | rfl
      · exact .inl h
      · exact .inr (List.mem_cons_self ..)
    · exact .inr (List.mem_cons_of_mem _ h)

/-- Cleaning keeps some of the parts, and adds none. -/
theorem mem_of_mem_cleanParts {ps : List String} {q : String} (h : q ∈ cleanParts rooted ps) :
    q ∈ ps := by
  rw [cleanParts_eq, List.mem_reverse] at h
  simpa using mem_foldl_cleanStep rooted h

/-- Cleaning leaves no empty part. -/
theorem ne_empty_of_mem_cleanParts {ps : List String} {q : String}
    (h : q ∈ cleanParts rooted ps) : q ≠ "" := by
  have hst := cleanParts_stacked rooted ps
  rw [← List.mem_reverse] at h
  generalize (cleanParts rooted ps).reverse = st at h hst
  induction st with
  | nil => cases h
  | cons p rest ih =>
    rcases List.mem_cons.1 h with rfl | h
    · exact hst.1
    · exact ih h hst.2.2.2

end Cleaning

/-! ## Joining -/

/-- A path that starts at the root has an empty first part. -/
theorem pathParts_head_of_rootedPath {s : String} (h : rootedPath s = true) :
    (pathParts s).head? = some "" := by
  unfold rootedPath at h
  unfold pathParts
  cases hs : s.toList with
  | nil => rw [hs] at h; cases h
  | cons c cs =>
    rw [hs] at h
    have hc : c = '/' := by simpa using h
    subst hc
    simp [List.splitOn_cons_eq_if_modifyHead]

theorem rootedPath_of_slash_not_mem {p : String} (h : '/' ∉ p.toList) : rootedPath p = false := by
  cases hr : rootedPath p with
  | false => rfl
  | true =>
    -- a path that starts at the root holds a `/`
    have hsplit := pathParts_head_of_rootedPath hr
    rw [pathParts_of_slash_not_mem h] at hsplit
    have hp : p = "" := by simpa using hsplit
    simp [hp, rootedPath] at hr

/-- A path written out from parts that are not empty and hold no separator splits back into
them, after an empty part for the root. -/
theorem pathParts_render {r : Bool} {ps : List String} (hne : ps ≠ [])
    (h : ∀ p ∈ ps, '/' ∉ p.toList) :
    pathParts (Path.mk r ps).render = if r then "" :: ps else ps := by
  cases r with
  | false =>
    obtain ⟨p, rest, rfl⟩ := List.exists_cons_of_ne_nil hne
    exact pathParts_intercalate hne h
  | true =>
    -- the root is an empty part in front of the others
    have hsplit : "/" ++ "/".intercalate ps = "/".intercalate ("" :: ps) := by
      rw [String.intercalate_cons_of_ne_nil hne, String.empty_append]
    simp only [Path.render, if_true, hsplit]
    refine pathParts_intercalate (List.cons_ne_nil _ _) fun p hp => ?_
    rcases List.mem_cons.1 hp with rfl | hp
    · simp
    · exact h p hp

/-- Written out, a path whose parts are names starts at the root exactly when the path does. -/
theorem rootedPath_render {r : Bool} {ps : List String} (hne : ∀ p ∈ ps, p ≠ "")
    (hslash : ∀ p ∈ ps, '/' ∉ p.toList) : rootedPath (Path.mk r ps).render = r := by
  cases r with
  | true => simp [Path.render, rootedPath]
  | false =>
    cases ps with
    | nil => rfl
    | cons q rest =>
      -- the first part is not empty, so it is not the empty part a root would give
      cases hr : rootedPath (Path.mk false (q :: rest)).render with
      | false => rfl
      | true =>
        have hhead := pathParts_head_of_rootedPath hr
        rw [pathParts_render (List.cons_ne_nil q rest) hslash] at hhead
        exact absurd (by simpa using hhead) (hne q List.mem_cons_self)

theorem join_eq (ps : List String) :
    Path.join ps = ⟨((ps.find? (· ≠ "")).map rootedPath).getD false,
      cleanParts (((ps.find? (· ≠ "")).map rootedPath).getD false) (ps.flatMap pathParts)⟩ :=
  rfl

/-- Parts that are all empty clean to nothing. -/
theorem cleanParts_of_empty (r : Bool) {xs : List String} (h : ∀ q ∈ xs, q = "") :
    cleanParts r xs = [] := by
  suffices hst : ∀ st, xs.foldl (cleanStep r) st = st by
    rw [cleanParts_eq, hst]; rfl
  induction xs with
  | nil => exact fun _ => rfl
  | cons x xs ih =>
    intro st
    rw [List.foldl_cons, h x List.mem_cons_self]
    exact ih (fun q hq => h q (List.mem_cons_of_mem _ hq)) st

/-- Empty parts name no path. -/
theorem join_of_all_empty {ps : List String} (h : ps.all (· = "") = true) :
    Path.join ps = ⟨false, []⟩ := by
  have hall : ∀ p ∈ ps, p = "" := by simpa using h
  have hfind : ps.find? (· ≠ "") = none := List.find?_eq_none.mpr fun p hp => by simp [hall p hp]
  have hparts : ∀ q ∈ ps.flatMap pathParts, q = "" := by
    intro q hq
    obtain ⟨p, hp, hq⟩ := List.mem_flatMap.1 hq
    rw [hall p hp] at hq
    simpa [pathParts] using hq
  rw [join_eq, hfind, cleanParts_of_empty _ hparts]
  rfl

/-- One part alone starts at the root when it does. -/
theorem join_singleton (x : String) :
    Path.join [x] = ⟨rootedPath x, cleanParts (rootedPath x) (pathParts x)⟩ := by
  by_cases hx : x = ""
  · subst hx
    rfl
  · simp [join_eq, hx]

/-- The parts of a joined path are names: not empty, without separator, and cleaned. -/
theorem join_parts (ps : List String) :
    (∀ q ∈ (Path.join ps).parts, q ≠ "") ∧ (∀ q ∈ (Path.join ps).parts, '/' ∉ q.toList) ∧
      cleanParts (Path.join ps).rooted (Path.join ps).parts = (Path.join ps).parts := by
  refine ⟨fun q hq => ne_empty_of_mem_cleanParts _ hq, fun q hq => ?_, ?_⟩
  · obtain ⟨s, -, hs⟩ := List.mem_flatMap.1 (mem_of_mem_cleanParts _ hq)
    exact slash_not_mem_of_mem_pathParts hs
  · -- the parts are stacked, so cleaning them again keeps them
    have hst : Stacked (Path.join ps).rooted (Path.join ps).parts.reverse :=
      cleanParts_stacked _ (ps.flatMap pathParts)
    rw [cleanParts_eq, foldl_cleanStep_of_stacked _ _ [] (by rw [List.append_nil]; exact hst)]
    simp

/-- A joined path, written out and read again, is the same path. -/
theorem join_render (ps : List String) : Path.join [(Path.join ps).render] = Path.join ps := by
  obtain ⟨hne, hslash, hkeep⟩ := join_parts ps
  rw [join_singleton, rootedPath_render hne hslash]
  generalize Path.join ps = P at hne hslash hkeep
  obtain ⟨r, qs⟩ := P
  cases qs with
  | nil => cases r <;> rfl
  | cons q rest =>
    rw [pathParts_render (List.cons_ne_nil q rest) hslash]
    cases r with
    | true => simpa [cleanParts_cons_of_empty] using hkeep
    | false => simpa using hkeep

/-- Joining the path that parts join is joining the parts. -/
theorem join_joinPath (ps : List String) : Path.join [joinPath ps] = Path.join ps := by
  unfold joinPath
  split
  · next h => rw [join_of_all_empty h]; rfl
  · exact join_render ps

/-- A name of one level after some parts is kept after their cleaned parts. -/
theorem join_append_name (ps : List String) {n : String} (h : IsPathName n) :
    Path.join (ps ++ [n]) = ⟨(Path.join ps).rooted, (Path.join ps).parts ++ [n]⟩ := by
  have hn : pathParts n = [n] := pathParts_of_slash_not_mem h.2.2.2
  -- the first part that is not empty is among `ps`, or else `n`, which does not start at the root
  have hroot : (((ps ++ [n]).find? (· ≠ "")).map rootedPath).getD false =
      ((ps.find? (· ≠ "")).map rootedPath).getD false := by
    rw [List.find?_append]
    cases ps.find? (· ≠ "") with
    | some p => rfl
    | none => simp [h.1, rootedPath_of_slash_not_mem h.2.2.2]
  rw [join_eq, join_eq ps, hroot]
  simp only [List.flatMap_append, List.flatMap_cons, List.flatMap_nil, List.append_nil, hn,
    cleanParts_append_name _ _ h]

/-- A path ending in a name of one level is the path of the parts before it, then the name. -/
theorem joinPath_append_name (ps : List String) {n : String} (h : IsPathName n) :
    joinPath (ps ++ [n]) = (Path.mk (Path.join ps).rooted ((Path.join ps).parts ++ [n])).render := by
  have hne : (ps ++ [n]).all (· = "") = false := by simp [h.1]
  rw [joinPath, if_neg (by simp [hne]), join_append_name ps h]

/-- The work directory of a run may start at the root, and stays so. -/
example : joinPath ["/tmp/testfleet", "000", "E", "a.log"] = "/tmp/testfleet/000/E/a.log" := by
  decide

/-- Joining a joined path with a name of one level is joining all the parts at once. -/
theorem joinPath_joinPath (ps : List String) {q : String} (hq : IsPathName q) :
    joinPath [joinPath ps, q] = joinPath (ps ++ [q]) := by
  rw [show [joinPath ps, q] = [joinPath ps] ++ [q] from rfl, joinPath_append_name _ hq,
    joinPath_append_name _ hq, join_joinPath]

/-- Two paths that differ only in a last name of one level are different. -/
theorem render_append_name_inj (P : Path) (hP : ∀ p ∈ P.parts, '/' ∉ p.toList) {m n : String}
    (hm : IsPathName m) (hn : IsPathName n) :
    (Path.mk P.rooted (P.parts ++ [m])).render = (Path.mk P.rooted (P.parts ++ [n])).render ↔
      m = n := by
  refine ⟨fun h => ?_, fun h => h ▸ rfl⟩
  -- split both sides back into their parts and compare the last ones
  have hslash : ∀ k, IsPathName k → ∀ p ∈ P.parts ++ [k], '/' ∉ p.toList := by
    intro k hk p hp
    rcases List.mem_append.1 hp with hp | hp
    · exact hP p hp
    · rw [List.mem_singleton.1 hp]; exact hk.2.2.2
  have hparts := congrArg pathParts h
  rw [pathParts_render (by simp) (hslash m hm), pathParts_render (by simp) (hslash n hn)] at hparts
  cases hr : P.rooted <;> simp only [hr, if_true, Bool.false_eq_true, if_false] at hparts <;>
    simpa using hparts

/-! ## Safe names -/

/-- How a character of a name is made safe: a separator, a wildcard, a quote, a redirection, a
pipe or a blank becomes `_`. -/
def safeChar (c : Char) : Char := if "/\\:*?\"<>| ".toList.contains c then '_' else c

theorem toList_safeName (s : String) :
    (safeName s).toList = if s = "" then ['_'] else s.toList.map safeChar := by
  unfold safeName
  split
  · rfl
  · rw [String.toList_map]; rfl

/-- A name none of whose characters is made safe is its own safe name. -/
theorem safeName_of_map {s : String} (hs : s ≠ "") (h : s.toList.map safeChar = s.toList) :
    safeName s = s := by
  rw [← String.toList_inj, toList_safeName, if_neg hs, h]

theorem safeChar_ne_slash (c : Char) : safeChar c ≠ '/' := by
  unfold safeChar
  split
  · decide
  · next h =>
    rintro rfl
    exact h (by decide)

/-- A character that is made safe into anything but `_` is kept as it is. -/
theorem eq_of_safeChar_eq {c d : Char} (h : safeChar c = d) (hd : d ≠ '_') : c = d := by
  unfold safeChar at h
  split at h
  · exact absurd h.symm hd
  · exact h

theorem slash_not_mem_safeName (s : String) : '/' ∉ (safeName s).toList := by
  rw [toList_safeName]
  split
  · decide
  · simp [safeChar_ne_slash]

/-- A safe name is `.` or `..` only when the name was. -/
theorem safeName_eq_dots_iff (s : String) (dots : String) (hdots : dots = "." ∨ dots = "..") :
    safeName s = dots ↔ s = dots := by
  constructor
  · intro h
    have hl := congrArg String.toList h
    rw [toList_safeName] at hl
    split at hl
    · rcases hdots with rfl | rfl <;> simp at hl
    · -- every character of `dots` is a `.`, which only a `.` is made into
      have hall : ∀ d ∈ dots.toList, d = '.' := by rcases hdots with rfl | rfl <;> simp
      have hkeep : ∀ c ∈ s.toList, c = safeChar c := by
        intro c hc
        have hmem : safeChar c ∈ dots.toList := by
          rw [← hl]
          exact List.mem_map_of_mem hc
        have hdot : safeChar c = '.' := hall _ hmem
        exact eq_of_safeChar_eq rfl (by rw [hdot]; decide)
      rw [← String.toList_inj]
      calc s.toList = s.toList.map id := (List.map_id _).symm
        _ = s.toList.map safeChar := List.map_congr_left hkeep
        _ = dots.toList := hl
  · rintro rfl
    rw [← String.toList_inj, toList_safeName]
    rcases hdots with rfl | rfl <;> decide

theorem safeName_ne_empty (s : String) : safeName s ≠ "" := by
  intro h
  have := congrArg String.toList h
  rw [toList_safeName] at this
  split at this
  · simp at this
  · next hs => exact hs (by simpa using this)

/-- A safe name is a name of one level unless the name was `.` or `..`. -/
theorem safeName_isPathName {s : String} (h1 : s ≠ ".") (h2 : s ≠ "..") :
    IsPathName (safeName s) :=
  ⟨safeName_ne_empty s, fun h => h1 ((safeName_eq_dots_iff s "." (.inl rfl)).1 h),
    fun h => h2 ((safeName_eq_dots_iff s ".." (.inr rfl)).1 h), slash_not_mem_safeName s⟩

/-- The file name of a log is always a name of one level. -/
theorem logName_isPathName (s : String) : IsPathName (safeName s ++ ".log") := by
  have hlen : 4 ≤ (safeName s ++ ".log").toList.length := by simp [String.toList_append]
  refine ⟨fun h => ?_, fun h => ?_, fun h => ?_, ?_⟩
  · rw [h] at hlen; simp at hlen
  · rw [h] at hlen; simp at hlen
  · rw [h] at hlen; simp at hlen
  · rw [String.toList_append]
    simp only [List.mem_append, not_or]
    exact ⟨slash_not_mem_safeName s, by decide⟩

theorem buildOrDefault_ne_dots {b : String} (h1 : b ≠ ".") (h2 : b ≠ "..") :
    buildOrDefault b ≠ "." ∧ buildOrDefault b ≠ ".." := by
  unfold buildOrDefault defaultBuild
  split
  · decide
  · exact ⟨h1, h2⟩

/-! ## The log of each test -/

namespace CommandExecutor

/-- Two tests share a log in a directory exactly when their safe names agree. -/
theorem logPath_eq_iff (dir a b : String) :
    logPath dir a = logPath dir b ↔ safeName a = safeName b := by
  unfold logPath
  rw [show [dir, safeName a ++ ".log"] = [dir] ++ [safeName a ++ ".log"] from rfl,
    show [dir, safeName b ++ ".log"] = [dir] ++ [safeName b ++ ".log"] from rfl,
    joinPath_append_name _ (logName_isPathName a), joinPath_append_name _ (logName_isPathName b)]
  exact (render_append_name_inj _ (join_parts [dir]).2.1 (logName_isPathName a)
    (logName_isPathName b)).trans (String.append_left_inj ".log")

/-- The log of a test of a request is its safe name with `.log` in the run directory. -/
theorem logPath_runDirOf (e : CommandExecutor) (req : RunRequest) (id : String) :
    logPath (e.runDirOf req) id =
      joinPath [e.workDir, safeName (buildOrDefault req.build), safeName req.ticket,
        safeName id ++ ".log"] :=
  joinPath_joinPath _ (logName_isPathName id)

/-- The build and the ticket name one level each, unless one of them is `.` or `..`. -/
theorem runDir_names {req : RunRequest} (hb1 : req.build ≠ ".") (hb2 : req.build ≠ "..")
    (ht1 : req.ticket ≠ ".") (ht2 : req.ticket ≠ "..") :
    IsPathName (safeName (buildOrDefault req.build)) ∧ IsPathName (safeName req.ticket) := by
  obtain ⟨hb1', hb2'⟩ := buildOrDefault_ne_dots hb1 hb2
  exact ⟨safeName_isPathName hb1' hb2', safeName_isPathName ht1 ht2⟩

/-- When the build and the ticket name one level each, a log lies three levels below the cleaned
work directory. -/
theorem logPath_runDirOf_of_names (e : CommandExecutor) {req : RunRequest} (id : String)
    (hb : IsPathName (safeName (buildOrDefault req.build)))
    (ht : IsPathName (safeName req.ticket)) :
    logPath (e.runDirOf req) id =
      (Path.mk (Path.join [e.workDir]).rooted ((Path.join [e.workDir]).parts ++
        [safeName (buildOrDefault req.build), safeName req.ticket, safeName id ++ ".log"])).render := by
  have hsplit : [e.workDir, safeName (buildOrDefault req.build), safeName req.ticket,
      safeName id ++ ".log"] =
      [e.workDir] ++ [safeName (buildOrDefault req.build)] ++ [safeName req.ticket] ++
        [safeName id ++ ".log"] := rfl
  -- each of the three names is kept after the cleaned work directory
  rw [logPath_runDirOf, hsplit, joinPath_append_name _ (logName_isPathName id),
    join_append_name _ ht, join_append_name _ hb]
  simp

/-- Every result of a run names as its log `<work>/<build>/<ticket>/<test>.log`, each name made
safe and the default build for none, joined and cleaned. When neither the build nor the ticket
is `.` or `..`, each log lies three levels below the work directory: its path is the cleaned
work directory, at the root when that is, followed by three names, each of one level. Two results
share a log exactly when the safe names of their tests agree. -/
theorem artifact_paths (e : CommandExecutor) (now : Instant) (deadline : Option Nat)
    (req : RunRequest) (ws : Workspace) :
    (∀ r ∈ (e.run now deadline req ws).results,
      r.artifact = joinPath [e.workDir, safeName (buildOrDefault req.build), safeName req.ticket,
        safeName r.testId ++ ".log"]) ∧
    (req.build ≠ "." → req.build ≠ ".." → req.ticket ≠ "." → req.ticket ≠ ".." →
      IsPathName (safeName (buildOrDefault req.build)) ∧ IsPathName (safeName req.ticket) ∧
      ∀ r ∈ (e.run now deadline req ws).results, IsPathName (safeName r.testId ++ ".log") ∧
        r.artifact = (Path.mk (Path.join [e.workDir]).rooted ((Path.join [e.workDir]).parts ++
          [safeName (buildOrDefault req.build), safeName req.ticket,
            safeName r.testId ++ ".log"])).render) ∧
    (∀ r ∈ (e.run now deadline req ws).results, ∀ r' ∈ (e.run now deadline req ws).results,
      r.artifact = r'.artifact ↔ safeName r.testId = safeName r'.testId) := by
  -- every result was reported by its test, run in the run directory
  have hart : ∀ r ∈ (e.run now deadline req ws).results,
      r.artifact = logPath (e.runDirOf req) r.testId :=
    fun r hr => (run_results_reported e now deadline req ws r hr).artifact
  refine ⟨fun r hr => ?_, fun hb1 hb2 ht1 ht2 => ?_, fun r hr r' hr' => ?_⟩
  · rw [hart r hr, logPath_runDirOf]
  · obtain ⟨hb, ht⟩ := runDir_names hb1 hb2 ht1 ht2
    refine ⟨hb, ht, fun r hr => ⟨logName_isPathName _, ?_⟩⟩
    rw [hart r hr, logPath_runDirOf_of_names e r.testId hb ht]
  · rw [hart r hr, hart r' hr', logPath_eq_iff]

/-- Safe names are not one to one: the tests `a b` and `a_b` of a request with the ticket `E`
both write `work/000/E/a_b.log`. And `..` takes a log out of its place: with the build and the
ticket both `..`, the log of the test `T` is `../T.log`, outside the work directory `work`. -/
theorem tests_share_log :
    logPath (runDirOf { command := ["true"] } { ticket := "E", testIds := ["a b", "a_b"] }) "a b" =
      "work/000/E/a_b.log" ∧
    logPath (runDirOf { command := ["true"] } { ticket := "E", testIds := ["a b", "a_b"] }) "a_b" =
      "work/000/E/a_b.log" ∧
    logPath (runDirOf { command := ["true"] } { ticket := "..", build := ".." }) "T" = "../T.log" := by
  have hblank : safeName "a b" = "a_b" := by
    rw [← String.toList_inj, toList_safeName]
    decide
  have hab : safeName "a_b" = "a_b" := safeName_of_map (by decide) (by decide)
  have hE : safeName "E" = "E" := safeName_of_map (by decide) (by decide)
  have h000 : safeName (buildOrDefault "") = "000" := safeName_of_map (by decide) (by decide)
  have hT : safeName "T" = "T" := safeName_of_map (by decide) (by decide)
  have hdots : safeName ".." = ".." := (safeName_eq_dots_iff ".." ".." (.inr rfl)).2 rfl
  have hbuild : buildOrDefault ".." = ".." := by decide
  refine ⟨?_, ?_, ?_⟩ <;>
    simp only [logPath, runDirOf, hblank, hab, hE, h000, hT, hdots, hbuild] <;> decide

end CommandExecutor

end TestDispatch.Executor

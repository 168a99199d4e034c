import TestDispatch.Proofs.Report.StoredTime
/-!
# Listing the reports of a build

Reports are added one after another (`ReportDb.create`) and listed by build
(`ReportDb.listByBuild`). Main result, `reports_listed_in_time_order`: after any run of additions
of reports that have a test id, under ids pairwise distinct once the missing ones are generated,
with start and recording times whose years in UTC lie in 0..9999, every addition succeeds, and
the reports of a build are listed once each, in the order of their recording times, then of
their ids. Each is listed as it was added (`stored`) but for its id, generated when missing, its
start time, in UTC, the zero time staying zero, its duration, truncated toward zero to a whole
millisecond (`truncMillis_spec`), and its recording time, in UTC, the clock's when missing.

On the way: `create_eq_ok` and `createAll_eq_ok` (what rows a run of additions adds),
`entryOf_rowOf` (what a row reads back as) and `listed_rows_sorted` (the order of a listing).
-/

namespace TestDispatch.ReportDb

open Instant

/-- The id a report is added under: its own, or the generated one when it has none. -/
def usedId (freshId : String) (e : ReportEntry) : String := if e.id = "" then freshId else e.id

/-- The recording time a report is added with: its own, or the clock's when it has none. -/
def recordedTime (now : Instant) (e : ReportEntry) : Instant :=
  if e.recordedAt.isZero then now else e.recordedAt

/-- The row a report is added as. -/
def rowOf (now : Instant) (freshId : String) (e : ReportEntry) : ReportRow :=
  { id := usedId freshId e, testId := e.testId, ticket := e.ticket, status := e.status,
    artifact := e.artifact, target := e.target, build := e.build,
    started := (if e.startedAt.isZero then "" else storedTime e.startedAt),
    durationMs := e.duration.tdiv 1000000, recorded := storedTime (recordedTime now e) }

/-- A report as a listing reads it back from its row. -/
def entryOf (r : ReportRow) : ReportEntry :=
  { id := r.id, testId := r.testId, ticket := r.ticket, status := r.status,
    artifact := r.artifact, target := r.target, build := r.build,
    startedAt := (if r.started = "" then Instant.zero else (readTime r.started).getD Instant.zero),
    duration := r.durationMs * 1000000,
    recordedAt := (readTime r.recorded).getD Instant.zero }

/-- A report as it is listed: its id, its start time in UTC (the zero time stays zero), its
duration truncated to whole milliseconds and its recording time in UTC. -/
def stored (now : Instant) (freshId : String) (e : ReportEntry) : ReportEntry :=
  { e with id := usedId freshId e,
           startedAt := if e.startedAt.isZero then Instant.zero else e.startedAt.utc,
           duration := e.duration.tdiv 1000000 * 1000000,
           recordedAt := (recordedTime now e).utc }

theorem listByBuild_eq (b : String) (db : ReportDb) :
    db.listByBuild b =
      ((db.rows.filter (·.build = b)).mergeSort fun x y => !rowBefore y x).map entryOf := rfl

/-! ## Adding reports -/

/-- A report with a test id, added under an id no row has, adds its row. -/
theorem create_eq_ok (now : Instant) (freshId : String) {e : ReportEntry} {db : ReportDb}
    (htest : e.testId ≠ "") (hfree : ∀ r ∈ db.rows, r.id ≠ usedId freshId e) :
    db.create now freshId e = .ok { rows := db.rows ++ [rowOf now freshId e] } := by
  have hany : db.rows.any (·.id = usedId freshId e) = false := by
    simpa using hfree
  unfold create
  simp only [htest, if_false]
  rw [show (if e.id = "" then freshId else e.id) = usedId freshId e from rfl, hany]
  rfl

/-- Reports with test ids, added one after another under ids pairwise distinct and used by no
row before, add their rows in order. -/
theorem createAll_eq_ok : ∀ (calls : List (Instant × String × ReportEntry)) (db : ReportDb),
    (∀ c ∈ calls, c.2.2.testId ≠ "") → (calls.map fun c => usedId c.2.1 c.2.2).Nodup →
    (∀ r ∈ db.rows, ∀ c ∈ calls, r.id ≠ usedId c.2.1 c.2.2) →
    calls.foldlM (fun db c => db.create c.1 c.2.1 c.2.2) db =
      .ok { rows := db.rows ++ calls.map fun c => rowOf c.1 c.2.1 c.2.2 }
  | [], db, _, _, _ => by simp; rfl
  | c :: cs, db, htest, hids, hfree => by
    rw [List.foldlM_cons, create_eq_ok c.1 c.2.1 (htest c List.mem_cons_self)
      fun r hr => hfree r hr c List.mem_cons_self]
    rw [List.map_cons, List.nodup_cons] at hids
    -- the row just added has an id that no later report uses
    have hfree' : ∀ r ∈ db.rows ++ [rowOf c.1 c.2.1 c.2.2], ∀ c' ∈ cs, r.id ≠ usedId c'.2.1 c'.2.2 := by
      intro r hr c' hc'
      rcases List.mem_append.mp hr with hr | hr
      · exact hfree r hr c' (List.mem_cons_of_mem c hc')
      · rw [List.mem_singleton.mp hr]
        exact fun heq => hids.1 (List.mem_map.mpr ⟨c', hc', heq.symm⟩)
    have hrest := createAll_eq_ok cs { rows := db.rows ++ [rowOf c.1 c.2.1 c.2.2] }
      (fun c' hc' => htest c' (List.mem_cons_of_mem c hc')) hids.2 hfree'
    simp only [List.map_cons, List.append_assoc, List.singleton_append] at hrest ⊢
    exact hrest

/-! ## Reading rows back -/

theorem storedTime_ne_empty {t : Instant} (ht : Storable t) : storedTime t ≠ "" := by
  intro h
  have hread := readTime_storedTime ht
  rw [h] at hread
  simp [readTime] at hread

/-- A report's row reads back as the report as it is listed. -/
theorem entryOf_rowOf (now : Instant) (freshId : String) {e : ReportEntry}
    (hs : e.startedAt.isZero = false → Storable e.startedAt) (hr : Storable (recordedTime now e)) :
    entryOf (rowOf now freshId e) = stored now freshId e := by
  simp only [entryOf, rowOf, stored, readTime_storedTime hr, Option.getD_some]
  by_cases hz : e.startedAt.isZero = true
  · simp [hz]
  · have hs' := hs (Bool.eq_false_iff.mpr hz)
    simp [hz, storedTime_ne_empty hs', readTime_storedTime hs']

/-- Truncating toward zero to whole milliseconds: a whole number of milliseconds, below a
non-negative duration and above a non-positive one, by less than a millisecond. -/
theorem truncMillis_spec (d : Int) :
    (d.tdiv 1000000 * 1000000) % 1000000 = 0 ∧
      (0 ≤ d → d.tdiv 1000000 * 1000000 ≤ d ∧ d < d.tdiv 1000000 * 1000000 + 1000000) ∧
      (d ≤ 0 → d ≤ d.tdiv 1000000 * 1000000 ∧ d.tdiv 1000000 * 1000000 < d + 1000000) := by
  rcases Int.le_total 0 d with hd | hd
  · rw [Int.tdiv_eq_ediv_of_nonneg hd]
    omega
  · -- a non-positive duration is truncated as its opposite, and negated
    have hneg : d.tdiv 1000000 = -((-d) / 1000000) := by
      rw [← Int.tdiv_eq_ediv_of_nonneg (by omega), Int.neg_tdiv, Int.neg_neg]
    rw [hneg]
    omega

/-! ## The order of a listing -/

/-- Where a row is listed: by its recording text, then by its id. -/
def rowKey (r : ReportRow) : String ×ₗ String := toLex (r.recorded, r.id)

theorem rowBefore_iff (x y : ReportRow) : rowBefore x y = true ↔ rowKey x < rowKey y := by
  simp [rowBefore, rowKey, Prod.Lex.lt_iff]

theorem rowKey_lt_iff (x y : ReportRow) :
    rowKey x < rowKey y ↔ x.recorded < y.recorded ∨ (x.recorded = y.recorded ∧ x.id < y.id) := by
  rw [← rowBefore_iff]
  simp only [rowBefore, Bool.or_eq_true, Bool.and_eq_true, decide_eq_true_iff]

/-- A listing puts the rows of a build in the order of their keys. -/
theorem listed_rows_sorted (b : String) (db : ReportDb) :
    ((db.rows.filter (·.build = b)).mergeSort fun x y => !rowBefore y x).Pairwise
      fun x y => rowKey x ≤ rowKey y := by
  -- the comparator of the sort is `≤` of the keys
  have hle : ∀ x y : ReportRow, (!rowBefore y x) = true ↔ rowKey x ≤ rowKey y := fun x y => by
    rw [Bool.not_eq_true', Bool.eq_false_iff, ne_eq, rowBefore_iff, not_lt]
  refine (List.pairwise_mergeSort (fun x y z hxy hyz => ?_) (fun x y => ?_) _).imp
    fun {x y} h => (hle x y).mp h
  · exact (hle x z).mpr (le_trans ((hle x y).mp hxy) ((hle y z).mp hyz))
  · simp only [Bool.or_eq_true]
    rcases le_total (rowKey x) (rowKey y) with h | h
    · exact Or.inl ((hle x y).mpr h)
    · exact Or.inr ((hle y x).mpr h)

/-- Reports of storable recording times whose rows are in the order of their keys are listed in
the order of their recording times, then of their ids. -/
theorem recorded_order_of_key_lt (now now' : Instant) (freshId freshId' : String)
    {e e' : ReportEntry} (hr : Storable (recordedTime now e)) (hr' : Storable (recordedTime now' e'))
    (hlt : rowKey (rowOf now freshId e) < rowKey (rowOf now' freshId' e')) :
    (stored now freshId e).recordedAt.before (stored now' freshId' e').recordedAt = true ∨
      ((stored now freshId e).recordedAt.sameTime (stored now' freshId' e').recordedAt = true ∧
        (stored now freshId e).id < (stored now' freshId' e').id) := by
  rw [rowKey_lt_iff] at hlt
  simp only [rowOf] at hlt
  simp only [stored, before_utc, sameTime_utc]
  rcases hlt with hlt | ⟨heq, hid⟩
  · exact .inl ((storedTime_lt_iff hr hr').mp hlt)
  · exact .inr ⟨(storedTime_eq_iff hr hr').mp heq, hid⟩

/-! ## Listing after a run of additions -/

/-- Reports added one after another, each with a test id, under ids pairwise distinct once the
missing ones are generated, and with start and recording times whose years in UTC lie in
0..9999, are all added. A listing of a build then shows each report of the build once, as it was
added but for its id (generated when missing), its start time (in UTC, the zero time staying
zero), its duration (truncated toward zero to a whole millisecond) and its recording time (in UTC,
the clock's when missing), in the order of the recording times, compared as instants, then of
the ids. The order rests on the layout of the stored times: for instants of those years, one text
is below another, octet by octet, exactly when its instant is the earlier one, and each text
reads back as its instant. -/
theorem reports_listed_in_time_order (calls : List (Instant × String × ReportEntry)) (b : String)
    (htest : ∀ c ∈ calls, c.2.2.testId ≠ "")
    (hids : (calls.map fun c => usedId c.2.1 c.2.2).Nodup)
    (hstarted : ∀ c ∈ calls, c.2.2.startedAt.isZero = false → Storable c.2.2.startedAt)
    (hrecorded : ∀ c ∈ calls, Storable (recordedTime c.1 c.2.2)) :
    ∃ db : ReportDb, calls.foldlM (fun (db : ReportDb) c => db.create c.1 c.2.1 c.2.2) {} = .ok db ∧
      (db.listByBuild b).Perm
        ((calls.filter (·.2.2.build = b)).map fun c => stored c.1 c.2.1 c.2.2) ∧
      (db.listByBuild b).Pairwise (fun x y => x.recordedAt.before y.recordedAt = true ∨
        (x.recordedAt.sameTime y.recordedAt = true ∧ x.id < y.id)) ∧
      (∀ d : Int, (d.tdiv 1000000 * 1000000) % 1000000 = 0 ∧
        (0 ≤ d → d.tdiv 1000000 * 1000000 ≤ d ∧ d < d.tdiv 1000000 * 1000000 + 1000000) ∧
        (d ≤ 0 → d ≤ d.tdiv 1000000 * 1000000 ∧ d.tdiv 1000000 * 1000000 < d + 1000000)) ∧
      (∀ t t', Storable t → Storable t' →
        (Utf8.textOctets (storedTime t) < Utf8.textOctets (storedTime t') ↔ t.before t' = true)) ∧
      ∀ t, Storable t → readTime (storedTime t) = some t.utc := by
  let rows := calls.map fun c => rowOf c.1 c.2.1 c.2.2
  have hfilter : rows.filter (·.build = b) =
      (calls.filter (·.2.2.build = b)).map fun c => rowOf c.1 c.2.1 c.2.2 := by
    rw [List.filter_map]
    rfl
  -- every row listed is the row of one of the reports, and no two share an id
  have hmem : ∀ r ∈ (rows.filter (·.build = b)).mergeSort (fun x y => !rowBefore y x),
      ∃ c ∈ calls, r = rowOf c.1 c.2.1 c.2.2 := fun r hr => by
    obtain ⟨c, hc, rfl⟩ := List.mem_map.mp (List.mem_filter.mp (List.mem_mergeSort.mp hr)).1
    exact ⟨c, hc, rfl⟩
  have hdistinct : ((rows.filter (·.build = b)).mergeSort (fun x y => !rowBefore y x)).Pairwise
      fun x y => x.id ≠ y.id := by
    have hrows : (rows.map ReportRow.id).Nodup := by
      simpa [rows, List.map_map, Function.comp_def, rowOf] using hids
    have hbuild : ((rows.filter (·.build = b)).map ReportRow.id).Nodup :=
      hrows.sublist ((List.filter_sublist).map _)
    exact List.pairwise_map.mp
      (((List.mergeSort_perm _ _).map ReportRow.id).nodup_iff.mpr hbuild)
  refine ⟨{ rows }, ?_, ?_, ?_, truncMillis_spec, fun t t' ht ht' => ?_,
    fun t ht => readTime_storedTime ht⟩
  · simpa using createAll_eq_ok calls {} htest hids (by simp)
  · -- listing reorders the rows of the build, each read back as its report
    rw [listByBuild_eq]
    refine ((List.mergeSort_perm _ _).map entryOf).trans (List.Perm.of_eq ?_)
    rw [hfilter, List.map_map]
    refine List.map_congr_left fun c hc => ?_
    have hc' := (List.mem_filter.mp hc).1
    exact entryOf_rowOf c.1 c.2.1 (hstarted c hc') (hrecorded c hc')
  · -- the keys of the rows listed increase, strictly since their ids differ
    rw [listByBuild_eq, List.pairwise_map]
    refine ((listed_rows_sorted b { rows }).and hdistinct).imp_of_mem
      fun {x y} hx hy ⟨hle, hne⟩ => ?_
    obtain ⟨c, hc, rfl⟩ := hmem x hx
    obtain ⟨c', hc', rfl⟩ := hmem y hy
    rw [entryOf_rowOf c.1 c.2.1 (hstarted c hc) (hrecorded c hc),
      entryOf_rowOf c'.1 c'.2.1 (hstarted c' hc') (hrecorded c' hc')]
    refine recorded_order_of_key_lt _ _ _ _ (hrecorded c hc) (hrecorded c' hc')
      (lt_of_le_of_ne hle fun hkey => hne ?_)
    simpa [rowKey] using (congrArg (fun k => (ofLex k).2) hkey)
  · rw [← Utf8.lt_iff_textOctets_lt]
    exact storedTime_lt_iff ht ht'

/-- Three reports, two of build `b1`: the first without an id or a recording time and started in
a zone an hour east of UTC, the second recorded before it. -/
def sampleCalls : List (Instant × String × ReportEntry) :=
  [({ unix := 1700000300 }, "gen-1",
      { testId := "T1", build := "b1", startedAt := { unix := 1700000000, offset := 3600 },
        duration := -1500000 }),
   ({ unix := 1700000400 }, "gen-2",
      { id := "r-2", testId := "T2", build := "b1", recordedAt := { unix := 1700000200 } }),
   ({ unix := 1700000500 }, "gen-3",
      { id := "r-3", testId := "T3", build := "b2", recordedAt := { unix := 1700000250 } })]

theorem sample_reports_listed :
    (∀ c ∈ sampleCalls, c.2.2.testId ≠ "") ∧
    (sampleCalls.map fun c => usedId c.2.1 c.2.2).Nodup ∧
    (∀ c ∈ sampleCalls, c.2.2.startedAt.isZero = false → Storable c.2.2.startedAt) ∧
    (∀ c ∈ sampleCalls, Storable (recordedTime c.1 c.2.2)) ∧
    ∃ db : ReportDb,
      sampleCalls.foldlM (fun (db : ReportDb) c => db.create c.1 c.2.1 c.2.2) {} = .ok db ∧
      (db.listByBuild "b1").Perm
        ((sampleCalls.filter (·.2.2.build = "b1")).map fun c => stored c.1 c.2.1 c.2.2) ∧
      (db.listByBuild "b1").Pairwise (fun x y => x.recordedAt.before y.recordedAt = true ∨
        (x.recordedAt.sameTime y.recordedAt = true ∧ x.id < y.id)) := by
  have htest : ∀ c ∈ sampleCalls, c.2.2.testId ≠ "" := by decide
  have hids : (sampleCalls.map fun c => usedId c.2.1 c.2.2).Nodup := by decide
  have hstarted : ∀ c ∈ sampleCalls, c.2.2.startedAt.isZero = false → Storable c.2.2.startedAt := by
    decide
  have hrecorded : ∀ c ∈ sampleCalls, Storable (recordedTime c.1 c.2.2) := by decide
  exact ⟨htest, hids, hstarted, hrecorded,
    (reports_listed_in_time_order sampleCalls "b1" htest hids hstarted hrecorded).imp
      fun _ h => ⟨h.1, h.2.1, h.2.2.1⟩⟩

end TestDispatch.ReportDb

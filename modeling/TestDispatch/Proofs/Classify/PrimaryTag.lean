import TestDispatch.Proofs.Text.ByteOrder
import TestDispatch.Classify.Options
/-!
# The primary tag against its rule

The classification rule, said on its own: the marker tags (`Options.Marker`) are the noise
tags, the internal-skip tags and the skip and parallel tags when they are set. Of a record's
non-empty non-marker tags, each once in the order first declared, the primary tag is picked from
those that are no base component tag, else from those that are, else from the record's
non-empty non-marker component tags (`Options.tier`). The tie-break picks the first candidate or
the smallest one in byte order (`Options.Picks`).

Main results:

* `primaryTag_reference`: the primary tag is the empty text when there is no candidate, and else
  the candidate the tie-break picks; only the mode name `first-seen` selects the first candidate.
  Under the lexical tie-break the primary tag depends only on which tags and component tags a
  record has, so no reordering or repetition of them changes it.

Underneath: `Options.primaryTag_eq_pick_tier` reads the primary tag as the tie-break applied to
the tier, and `Options.pick_spec` says what the tie-break picks, the smallest text through
`foldl_min_spec`.
-/

namespace TestDispatch.Classify

/-- A fold that keeps the smaller text ends at its start or at a candidate, no larger than the
start nor than any candidate. -/
theorem foldl_min_spec (cs : List String) (best : String) :
    let m := cs.foldl (fun best t => if t < best then t else best) best
    (m = best ∨ m ∈ cs) ∧ m ≤ best ∧ ∀ c ∈ cs, m ≤ c := by
  induction cs generalizing best with
  | nil => simp
  | cons c cs ih =>
    obtain ⟨hmem, hbest, hall⟩ := ih (if c < best then c else best)
    -- one step keeps the smaller of the start and the next candidate
    have hstep : (if c < best then c else best) ≤ best ∧ (if c < best then c else best) ≤ c := by
      split
      · exact ⟨le_of_lt ‹_›, le_refl c⟩
      · exact ⟨le_refl best, not_lt.mp ‹_›⟩
    simp only [List.foldl_cons, List.mem_cons, forall_eq_or_imp]
    refine ⟨?_, le_trans hbest hstep.1, le_trans hbest hstep.2, hall⟩
    rcases hmem with h | h
    · rw [h]
      split
      · exact .inr (.inl rfl)
      · exact .inl rfl
    · exact .inr (.inr h)

theorem TieBreak.ofName_eq_firstSeen_iff (name : String) :
    TieBreak.ofName name = .firstSeen ↔ name = "first-seen" := by
  unfold TieBreak.ofName
  split <;> simp_all

namespace Options

/-- The tags that never serve as primary tag: the noise tags, the internal-skip tags, and the
skip and parallel tags when they are set. -/
def Marker (o : Options) (t : String) : Prop :=
  t ∈ o.noiseTags ∨ t ∈ o.internalSkipTags ∨ (o.skipTag ≠ "" ∧ t = o.skipTag) ∨
    (o.parallelTag ≠ "" ∧ t = o.parallelTag)

instance (o : Options) : DecidablePred o.Marker := fun _ => inferInstanceAs (Decidable (_ ∨ _))

/-- The candidates the primary tag is picked from: the record's non-empty non-marker tags, each
once in the order first declared, that are no base component tag; else those that are; else
the record's non-empty non-marker component tags. -/
def tier (o : Options) (r : TestRecord) : List String :=
  let declared := (r.tags.filter fun t => t ≠ "" ∧ ¬ o.Marker t).eraseDups
  let candidates := declared.filter (· ∉ o.baseComponentTags)
  let fallback := declared.filter (· ∈ o.baseComponentTags)
  if candidates ≠ [] then candidates
  else if fallback ≠ [] then fallback
  else r.componentTags.filter fun t => t ≠ "" ∧ ¬ o.Marker t

/-- What the tie-break makes of some candidates: the first one declared, or the smallest one in
byte order. -/
def Picks (o : Options) (cs : List String) (t : String) : Prop :=
  match o.tieBreak with
  | .firstSeen => cs.head? = some t
  | .lexical => t ∈ cs ∧ ∀ c ∈ cs, t ≤ c

theorem mem_ignored (o : Options) (t : String) : t ∈ o.ignored ↔ o.Marker t := by
  unfold ignored Marker
  split <;> split <;> simp_all

theorem usable_iff (o : Options) (t : String) : o.usable t = true ↔ t ≠ "" ∧ ¬ o.Marker t := by
  simp [usable, mem_ignored]

theorem usableTags_eq (o : Options) (r : TestRecord) :
    o.usableTags r = (r.tags.filter fun t => t ≠ "" ∧ ¬ o.Marker t).eraseDups := by
  unfold usableTags
  congr 1
  exact List.filter_congr fun t _ => by rw [Bool.eq_iff_iff, usable_iff, decide_eq_true_iff]

/-- The primary tag is what the tie-break picks from the tier. -/
theorem primaryTag_eq_pick_tier (o : Options) (r : TestRecord) :
    o.primaryTag r = o.pick (o.tier r) := by
  have hcand : ∀ l : List String, l.filter (fun t => !o.baseComponentTags.contains t) =
      l.filter (· ∉ o.baseComponentTags) := fun l => List.filter_congr fun t _ => by simp
  have hfall : ∀ l : List String, l.filter (fun t => o.baseComponentTags.contains t) =
      l.filter (· ∈ o.baseComponentTags) := fun l => List.filter_congr fun t _ => by simp
  have hcomp : r.componentTags.filter o.usable =
      r.componentTags.filter fun t => t ≠ "" ∧ ¬ o.Marker t :=
    List.filter_congr fun t _ => by rw [Bool.eq_iff_iff, usable_iff, decide_eq_true_iff]
  unfold primaryTag tier
  dsimp only
  rw [usableTags_eq, hcand, hfall, hcomp]
  simp only [Bool.not_eq_true', List.isEmpty_eq_false_iff]
  split_ifs <;> rfl

theorem pick_nil (o : Options) : o.pick [] = "" := rfl

/-- Of some candidates, the tie-break picks the first one or the smallest one. -/
theorem pick_spec (o : Options) {cs : List String} (h : cs ≠ []) : o.Picks cs (o.pick cs) := by
  obtain ⟨c, cs, rfl⟩ := List.exists_cons_of_ne_nil h
  cases htb : o.tieBreak with
  | firstSeen => simp [Picks, pick, htb]
  | lexical =>
    obtain ⟨hmem, hle, hall⟩ := foldl_min_spec cs c
    simp only [Picks, pick, htb]
    refine ⟨?_, List.forall_mem_cons.mpr ⟨hle, hall⟩⟩
    rcases hmem with h | h
    · rw [h]
      exact List.mem_cons_self ..
    · exact List.mem_cons_of_mem _ h

/-- The lexical tie-break picks the same text from candidates with the same members. -/
theorem pick_congr {o : Options} (h : o.tieBreak = .lexical) {cs cs' : List String}
    (hcs : ∀ t, t ∈ cs' ↔ t ∈ cs) : o.pick cs' = o.pick cs := by
  by_cases hnil : cs = []
  · have hnil' : cs' = [] := List.eq_nil_iff_forall_not_mem.mpr fun t ht => by
      simpa [hnil] using (hcs t).mp ht
    rw [hnil, hnil']
  · have hnil' : cs' ≠ [] := fun he => hnil (List.eq_nil_iff_forall_not_mem.mpr fun t ht => by
      simpa [he] using (hcs t).mpr ht)
    have hp := pick_spec o hnil
    have hp' := pick_spec o hnil'
    simp only [Picks, h] at hp hp'
    exact le_antisymm (hp'.2 _ ((hcs _).mpr hp.1)) (hp.2 _ ((hcs _).mp hp'.1))

/-- The tier of a record has the same members for every record with the same tags and
component tags. -/
theorem mem_tier_congr (o : Options) {r r' : TestRecord} (htags : ∀ t, t ∈ r'.tags ↔ t ∈ r.tags)
    (hcomp : ∀ t, t ∈ r'.componentTags ↔ t ∈ r.componentTags) (t : String) :
    t ∈ o.tier r' ↔ t ∈ o.tier r := by
  -- each of the three lists keeps its members, hence also whether it is empty
  have hmem : ∀ (p : String → Bool) (t : String),
      t ∈ ((r'.tags.filter fun t => t ≠ "" ∧ ¬ o.Marker t).eraseDups).filter p ↔
        t ∈ ((r.tags.filter fun t => t ≠ "" ∧ ¬ o.Marker t).eraseDups).filter p := by
    intro p t
    simp only [List.mem_filter, List.mem_eraseDups, htags]
  have hcmem : ∀ t, t ∈ r'.componentTags.filter (fun t => t ≠ "" ∧ ¬ o.Marker t) ↔
      t ∈ r.componentTags.filter (fun t => t ≠ "" ∧ ¬ o.Marker t) := by
    intro t
    simp only [List.mem_filter, hcomp]
  have hnil : ∀ {l l' : List String}, (∀ t, t ∈ l' ↔ t ∈ l) → (l' = [] ↔ l = []) := by
    intro l l' hl
    simp only [List.eq_nil_iff_forall_not_mem, hl]
  have hC := hnil (hmem fun t => decide (t ∉ o.baseComponentTags))
  have hB := hnil (hmem fun t => decide (t ∈ o.baseComponentTags))
  unfold tier
  dsimp only
  simp only [ne_eq, hC, hB]
  -- the tiers of both records are then the component tags, the base tags or the other tags
  split_ifs
  · exact hcmem t
  · exact hmem _ t
  · exact hmem _ t

end Options

/-- The primary tag follows its rule: the empty text when the record has no candidate, and
else the candidate the tie-break picks, the first one for the mode `first-seen` and the
smallest one in byte order for every other mode name. Under the lexical tie-break, records with
the same tags and the same component tags, in any order and repeated any number of times, have
the same primary tag. -/
theorem primaryTag_reference (o : Options) (r : TestRecord) :
    (o.tier r = [] → o.primaryTag r = "") ∧
      (o.tier r ≠ [] → o.Picks (o.tier r) (o.primaryTag r)) ∧
      (∀ name, TieBreak.ofName name = .firstSeen ↔ name = "first-seen") ∧
      (o.tieBreak = .lexical → ∀ r' : TestRecord, (∀ t, t ∈ r'.tags ↔ t ∈ r.tags) →
        (∀ t, t ∈ r'.componentTags ↔ t ∈ r.componentTags) → o.primaryTag r' = o.primaryTag r) := by
  refine ⟨fun h => ?_, fun h => ?_, TieBreak.ofName_eq_firstSeen_iff, fun hlex r' htags hcomp => ?_⟩
  · rw [Options.primaryTag_eq_pick_tier, h, Options.pick_nil]
  · rw [Options.primaryTag_eq_pick_tier]
    exact Options.pick_spec o h
  · rw [Options.primaryTag_eq_pick_tier, Options.primaryTag_eq_pick_tier]
    exact Options.pick_congr hlex (Options.mem_tier_congr o htags hcomp)

end TestDispatch.Classify

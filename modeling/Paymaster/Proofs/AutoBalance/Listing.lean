import Paymaster.Proofs.Allocation.Proportions
import Paymaster.Proofs.AutoBalance.Checks
import Paymaster.Proofs.Payroll.Conservation
import Paymaster.Proofs.Payroll.Undated

/-
  What a configuration pays out does not depend on how its sources are listed.
  Model (read this before the theorems). Two lists of sources are put in the place of the same
  configuration, each on the same database, perhaps at different times. They name the same sources
  with the same weights, in any order, and besides any sources without weight.

  What is kept of a list is its sources with weight, by id. So the two replacements leave the same
  edges, and rows that differ in a time of change at most, and from then on all runs of payroll
  report the same. What each source pays is worked out on the kept list, but it is the part that
  the full list, by id, gives it (`replace_listing`): sources without weight may be left out of a
  split.
-/

namespace Paymaster

/-- Two lists in a strict order that have the same elements are the same. -/
theorem eq_of_ascending {α : Type} {before : α → α → Prop}
    (asymm : ∀ a b, before a b → ¬before b a) {xs ys : List α} (hx : xs.Pairwise before)
    (hy : ys.Pairwise before) (same : ∀ a, a ∈ xs ↔ a ∈ ys) : xs = ys := by
  have : Std.Irrefl before := ⟨fun a h => asymm a a h h⟩
  have : Std.Antisymm before := ⟨fun a b h h' => absurd h' (asymm a b h)⟩
  exact hx.eq_of_mem_iff hy same

theorem word_asymm {a b : Int64} (h : a < b) : ¬b < a := by
  rw [Int64.lt_iff_toInt_lt] at *
  omega

theorem Edge.before_asymm (a b : Edge) (h : a.before b) : ¬b.before a := by
  rw [Edge.before_iff] at *
  rintro (later | ⟨same, later⟩)
  · rcases h with earlier | ⟨same, -⟩
    · exact word_asymm earlier later
    · rw [same] at later
      exact word_asymm later later
  · rcases h with earlier | ⟨-, earlier⟩
    · rw [same] at earlier
      exact word_asymm earlier earlier
    · exact word_asymm earlier later

namespace AutoBalance

open Ledger LedgerM Payroll

variable {budget : BudgetId} {actor : Option UserId} {enabled : Bool} {xs ys : List SourceWeight}
  {now now' : Instant} {s t t' : Store}

/-! ## The edges that are left -/

theorem mem_edges {e : Edge} : e ∈ edges budget xs ↔
    ∃ x ∈ xs, 0 < x.weight.toInt ∧ e = ⟨budget, x.source, x.weight⟩ := by
  have weighty (x : SourceWeight) : 0 < x.weight ↔ 0 < x.weight.toInt := Int32.lt_iff_toInt_lt
  simp only [edges, List.mem_map, List.mem_filter, decide_eq_true_eq, weighty, and_assoc,
    eq_comm (b := e)]

/-- A replacement sets the time of change itself. -/
theorem undated_configured (budget : BudgetId) (enabled : Bool) (now now' : Instant) (b : Budget) :
    (Configured budget enabled now b).undated =
      (Configured budget enabled now' b.undated).undated := by
  unfold Configured
  by_cases here : b.id = budget
  · rw [if_pos here, if_pos (show b.undated.id = budget from here)]
    rfl
  · rw [if_neg here, if_neg (show ¬b.undated.id = budget from here)]
    rfl

/-- Replacements by lists that name the same sources with weight differ in times of change at
most. -/
theorem sameButDates_of_replaces (h : Replaces budget enabled xs now s t)
    (h' : Replaces budget enabled ys now' s t')
    (same : ∀ x, 0 < x.weight.toInt → (x ∈ xs ↔ x ∈ ys)) : SameButDates t t' where
  budgets := by
    rw [h.budgets, h'.budgets, List.map_map, List.map_map]
    refine List.map_congr_left fun b _ => ?_
    exact (undated_configured _ _ _ now _).trans (undated_configured _ _ _ _ _).symm
  entries := by rw [h.entries, h'.entries]
  edges := by
    refine eq_of_ascending Edge.before_asymm t'.edges_byKey t.edges_byKey fun e => ?_
    have asked : e ∈ edges budget ys ↔ e ∈ edges budget xs := by
      rw [mem_edges, mem_edges]
      constructor
      · rintro ⟨x, hx, weight, rfl⟩
        exact ⟨x, (same x weight).2 hx, weight, rfl⟩
      · rintro ⟨x, hx, weight, rfl⟩
        exact ⟨x, (same x weight).1 hx, weight, rfl⟩
    rw [h.edges, h'.edges, asked]
  members := by rw [h.members, h'.members]
  rejecting := by rw [h.rejecting, h'.rejecting]
  lastEntry := by rw [h.lastEntry, h'.lastEntry]

/-! ## What the sources pay -/

/-- The sources by id. -/
def byId (sources : List SourceWeight) : List SourceWeight :=
  sources.mergeSort fun x y => x.source ≤ y.source

/-- What each listed source is to pay of a deficit, sources by id. -/
def parts (deficit : Money) (sources : List SourceWeight) : List (BudgetId × Int) :=
  ((byId sources).map (·.source)).zip
    (Allocation.allocate deficit.toInt ((byId sources).map (·.weight.toInt)))

theorem ascending_byId (distinct : (xs.map (·.source)).Nodup) :
    (byId xs).Pairwise (·.source < ·.source) := by
  have listed : (byId xs).Perm xs := List.mergeSort_perm _ _
  have sorted : (byId xs).Pairwise fun x y => decide (x.source ≤ y.source) := by
    refine List.pairwise_mergeSort (fun x y z => ?_) (fun x y => ?_) xs
    · simpa using Int64.le_trans
    · simpa using Int64.le_total _ _
  have apart : (byId xs).Pairwise fun x y => x.source ≠ y.source :=
    List.pairwise_map.1 ((listed.map _).nodup_iff.2 distinct)
  refine (sorted.and apart).imp fun {x y} h => ?_
  have le := of_decide_eq_true h.1
  have ne := mt Int64.toInt_inj.1 h.2
  rw [Int64.le_iff_toInt_le] at le
  rw [Int64.lt_iff_toInt_lt]
  omega

theorem sourcesOf_eq (h : Replaces budget enabled xs now s t)
    (distinct : (xs.map (·.source)).Nodup) : t.sourcesOf budget = edges budget (byId xs) := by
  have listed (x : SourceWeight) : x ∈ byId xs ↔ x ∈ xs := (List.mergeSort_perm _ _).mem_iff
  have ascending : (edges budget (byId xs)).Pairwise (·.source < ·.source) :=
    List.pairwise_map.2 ((ascending_byId distinct).filter _)
  refine eq_of_ascending (fun _ _ => word_asymm) (ascending_sourcesOf t budget) ascending
    fun e => ?_
  rw [Store.sourcesOf, List.mem_filter, h.edges, mem_edges, mem_edges]
  simp only [listed, decide_eq_true_eq]
  constructor
  · rintro ⟨new | ⟨-, other⟩, target⟩
    · exact new
    · exact absurd target other
  · rintro ⟨x, hx, weight, rfl⟩
    exact ⟨.inl ⟨x, hx, weight, rfl⟩, rfl⟩

theorem shares_sourcesOf (h : Replaces budget enabled xs now s t)
    (distinct : (xs.map (·.source)).Nodup) (deficit : Money) :
    (shares deficit (t.sourcesOf budget)).filter (0 < ·.2) =
      (parts deficit xs).filter (0 < ·.2) := by
  have weighty (x : SourceWeight) : decide (0 < x.weight) = decide (0 < x.weight.toInt) :=
    decide_eq_decide.2 Int32.lt_iff_toInt_lt
  have kept := Allocation.parts_positive deficit.toInt (·.source) (·.weight.toInt) (byId xs)
  rw [sourcesOf_eq h distinct, shares, edges, List.map_map, List.map_map, parts, ← kept]
  simp only [weighty]
  rfl

/-! ## Two lists -/

/-- Two replacements that succeed on the same database, by lists that name the same sources with
weight, in any order and among any sources without weight: they leave the same edges, and from then
on all runs of payroll report the same. In each report, every transfer to the budget is made up of
the parts that the full list gives, less those of nothing. -/
theorem replace_listing {db db₁ db₂ : Database}
    (ran : (replace budget actor enabled xs now).run db = (.ok (), db₁))
    (ran' : (replace budget actor enabled ys now').run db = (.ok (), db₂))
    (same : ∀ x, 0 < x.weight.toInt → (x ∈ xs ↔ x ∈ ys)) :
    OnStores (fun t t' => t'.edges = t.edges) db₁ db₂ ∧
      ∀ runs, reports runs db₂ = reports runs db₁ ∧
        ∀ report, .ok report ∈ reports runs db₁ → ∀ a ∈ report, a.budget = budget →
          ∀ x, a.transfer = some x → x.debits.map (fun d => (d.source, d.amount.toInt)) =
            (parts x.deficit xs).filter (0 < ·.2) := by
  rcases replace_cases budget actor enabled xs now db with ⟨_, _, failed, -⟩ |
    ⟨s, t, rfl, done, replaces⟩
  · rw [failed] at ran
    cases ran
  rcases replace_cases budget actor enabled ys now' (.live s) with ⟨_, _, failed, -⟩ |
    ⟨_, t', ⟨⟩, done', replaces'⟩
  · rw [failed] at ran'
    cases ran'
  have acceptable : Acceptable s.store budget actor xs := by
    rw [← (replace_answers budget actor enabled xs now s).1, done]
  rw [done] at ran
  rw [done'] at ran'
  cases ran
  cases ran'
  have dates := sameButDates_of_replaces replaces replaces' same
  refine ⟨.live dates.edges, fun runs => ⟨reports_congr dates runs, ?_⟩⟩
  intro report listed a ha here x hx
  obtain ⟨u, b, edges, paid, covers⟩ := clears_of_mem_reports listed a ha x hx
  have sources : u.sourcesOf b.id = t.sourcesOf budget := by
    rw [Store.sourcesOf, edges, ← paid, here]
    rfl
  rw [covers.debits, sources, shares_sourcesOf replaces acceptable.distinct]

/-- A budget that owes five cents, and three others. -/
def owing : Store where
  budgets := [⟨1, "rent", ⟨100⟩, none, false, noon, noon⟩,
    ⟨2, "food", ⟨0⟩, none, false, noon, noon⟩, ⟨3, "rest", ⟨0⟩, none, false, noon, noon⟩,
    ⟨4, "fun", ⟨0⟩, none, false, noon, noon⟩]
  entries := [⟨1, 1, none, "", .debit, ⟨5⟩, noon, noon⟩]
  lastBudget := 4
  lastEntry := 1
  budgets_byId := by decide
  entries_byId := by decide
  entries_le := by decide

/-- Two sources of the same weight. -/
def evenly : List SourceWeight := [⟨3, 1⟩, ⟨2, 1⟩]

/-- The same, listed the other way round and after one without weight. -/
def padded : List SourceWeight := [⟨4, 0⟩, ⟨2, 1⟩, ⟨3, 1⟩]

/-- The odd cent is paid by the source of the smaller id, however the two are listed. -/
theorem replace_listing_owing :
    let march : Run × Zone × Instant := (.monthly, .utc, noon)
    let rent : Application := ⟨1, "rent", ⟨100⟩, some ⟨⟨5⟩, [⟨2, ⟨3⟩⟩, ⟨3, ⟨2⟩⟩], ⟨5⟩⟩, noon⟩
    ∃ db₁ db₂, (replace 1 none true evenly noon).run (.live { store := owing }) = (.ok (), db₁) ∧
      (replace 1 none true padded noon).run (.live { store := owing }) = (.ok (), db₂) ∧
      reports [march] db₁ = [.ok [rent]] ∧ reports [march] db₂ = [.ok [rent]] ∧
      (parts ⟨5⟩ evenly).filter (0 < ·.2) = [(2, 3), (3, 2)] := by
  intro march rent
  have ran : ((replace 1 none true evenly noon).run (.live { store := owing })).1 = .ok () := by
    decide +kernel
  have ran' : ((replace 1 none true padded noon).run (.live { store := owing })).1 = .ok () := by
    decide +kernel
  have month : Period.containing .utc noon =
      .ok ⟨noon, { seconds := 1709251200, nanos := 0 }, "March 2024"⟩ := by decide +kernel
  have reported : reports [march] ((replace 1 none true evenly noon).run
      (.live { store := owing })).2 = [.ok [rent]] := by
    simp only [march, reports, Run.report, monthlyReport, month]
    cbv
  rcases one : (replace 1 none true evenly noon).run (.live { store := owing }) with ⟨_, db₁⟩
  rcases other : (replace 1 none true padded noon).run (.live { store := owing }) with ⟨_, db₂⟩
  rw [one] at ran reported
  rw [other] at ran'
  cases ran
  cases ran'
  have same : ∀ x : SourceWeight, 0 < x.weight.toInt → (x ∈ evenly ↔ x ∈ padded) := by
    intro x weight
    have weightless : x ≠ ⟨4, 0⟩ := by
      rintro rfl
      exact absurd weight (by decide)
    simp [evenly, padded, weightless, or_comm]
  obtain ⟨-, later⟩ := replace_listing one other same
  obtain ⟨alike, split⟩ := later [march]
  have debits := split [rent] (by rw [reported]; exact List.mem_singleton_self _) rent
    (List.mem_singleton_self _) rfl _ rfl
  exact ⟨db₁, db₂, rfl, rfl, reported, alike.trans reported, debits.symm⟩

end AutoBalance

end Paymaster

import Paymaster.Proofs.AutoBalance.Checks
import Paymaster.Proofs.Payroll.HalfWay

/-
  The ledger and the edges stay well formed.
  Model (read this before the theorems). A call writes an entry, runs payroll, for all budgets or
  for one, or replaces a configuration (`Call`), with any arguments; it may fail, and the next one
  is made on what it left. `Keeps s t` says what no call breaks: the ledger is only ever added to
  at its end, and a store that was well formed is so still.

  Every call keeps this (`Call.leaves_keeps`). So from budgets and members alone, without entries
  or edges, all that a sequence of calls passes through is well formed, and each ledger on the way
  begins with all those before it (`wellFormed_through`).
-/

namespace Paymaster

open Ledger LedgerM AutoBalance

/-- Entries are positive. An edge has a weight of 1 to 100 and joins two different budgets, which
exist, and no other edge joins the same ones. -/
structure WellFormed (s : Store) : Prop where
  positive : ∀ e ∈ s.entries, 0 < e.amount.toInt
  weighted : ∀ e ∈ s.edges, 1 ≤ e.weight.toInt ∧ e.weight.toInt ≤ 100
  proper : ∀ e ∈ s.edges, e.source ≠ e.target
  single : s.edges.Pairwise fun a b => ¬(a.target = b.target ∧ a.source = b.source)
  ends : ∀ e ∈ s.edges, s.hasBudget e.target ∧ s.hasBudget e.source

/-- Something that writes entries or edges. -/
inductive Call
  | entry (e : NewEntry) (now : Instant)
  | payroll (r : Payroll.Run) (z : Zone) (now : Instant)
  | configure (budget : BudgetId) (actor : Option UserId) (enabled : Bool)
      (sources : List SourceWeight) (now : Instant)

def Call.operation : Call → LedgerM Unit
  | entry e now => do
    let _ ← insertEntry e now
    pure ()
  | payroll r z now => do
    let _ ← r.count z now
    pure ()
  | configure budget actor enabled sources now => replace budget actor enabled sources now

/-- From `s` to `t` the ledger was only added to, and `t` is well formed if `s` was. -/
structure Keeps (s t : Store) : Prop where
  ledger : s.entries <+: t.entries
  wellFormed : WellFormed s → WellFormed t

theorem stepwise_keeps : Stepwise Keeps where
  refl _ := ⟨List.prefix_rfl, id⟩
  trans first second := ⟨first.ledger.trans second.ledger, second.wellFormed ∘ first.wellFormed⟩

/-- The order of the edges lets no pair of budgets come twice. -/
theorem Store.edges_single (s : Store) :
    s.edges.Pairwise fun a b => ¬(a.target = b.target ∧ a.source = b.source) := by
  refine s.edges_byKey.imp fun {a b} before same => ?_
  rcases Edge.before_iff.1 before with smaller | ⟨-, smaller⟩
  · rw [same.1, Int64.lt_iff_toInt_lt] at smaller
    omega
  · rw [same.2, Int64.lt_iff_toInt_lt] at smaller
    omega

/-! ## What each call keeps -/

theorem keeps_of_wrote {now : Instant} {news : List NewEntry}
    {stamps : List (BudgetId × Instant)} {s t : Store} (h : Wrote now news stamps s t)
    (positive : ∀ e ∈ news, e.amount.isPositive) : Keeps s t where
  ledger := by
    rw [h.entries]
    exact List.prefix_append _ _
  wellFormed before := {
    positive := by
      rw [h.entries]
      intro e he
      rcases List.mem_append.1 he with old | new
      · exact before.positive e old
      · obtain ⟨n, hn, id, rfl⟩ := NewEntry.mem_records new
        exact of_decide_eq_true (positive n hn)
    weighted := h.edges ▸ before.weighted
    proper := h.edges ▸ before.proper
    single := t.edges_single
    ends := by
      simp only [h.edges, h.hasBudget]
      exact before.ends }

theorem allowsWrites_keeps : Payroll.AllowsWrites Keeps where
  toStepwise := stepwise_keeps
  posts wrote positive _ := keeps_of_wrote wrote fun e he => by
    rw [List.mem_singleton.1 he]
    exact positive
  stamps wrote := keeps_of_wrote wrote fun _ none => nomatch none

/-- What was checked before the new edges came makes them well formed. -/
theorem keeps_of_replaces {budget : BudgetId} {actor : Option UserId} {enabled : Bool}
    {sources : List SourceWeight} {now : Instant} {s t : Store}
    (h : Replaces budget enabled sources now s t) (checked : Acceptable s budget actor sources) :
    Keeps s t where
  ledger := by
    rw [h.entries]
  wellFormed before := by
    have cases_of {e : Edge} (he : e ∈ t.edges) :
        (∃ x ∈ sources, 0 < x.weight ∧ e = ⟨budget, x.source, x.weight⟩) ∨ e ∈ s.edges := by
      rcases (h.edges e).1 he with new | ⟨old, -⟩
      · obtain ⟨x, hx, rfl⟩ := List.mem_map.1 new
        obtain ⟨hx, weight⟩ := List.mem_filter.1 hx
        exact .inl ⟨x, hx, of_decide_eq_true weight, rfl⟩
      · exact .inr old
    refine ⟨h.entries ▸ before.positive, ?_, ?_, t.edges_single, ?_⟩
    · intro e he
      rcases cases_of he with ⟨x, hx, weight, rfl⟩ | old
      · have zero : (0 : Int32).toInt = 0 := rfl
        have most := (checked.weighted x hx).2
        rw [Int32.lt_iff_toInt_lt, zero] at weight
        exact ⟨weight, most⟩
      · exact before.weighted e old
    · intro e he
      rcases cases_of he with ⟨x, hx, -, rfl⟩ | old
      · exact checked.others x hx
      · exact before.proper e old
    · intro e he
      rw [h.hasBudget, h.hasBudget]
      rcases cases_of he with ⟨x, hx, -, rfl⟩ | old
      · exact ⟨checked.present, checked.sources_present x hx⟩
      · exact before.ends e old

theorem leaves_insertEntry (e : NewEntry) (now : Instant) : Leaves Keeps (insertEntry e now) := by
  have follows := Payroll.follows_insertEntry allowsWrites_keeps.toAllowsEntries e now
  intro db
  cases db with
  | live s =>
    rw [follows.1 s]
    exact .live (follows.2 s.store)
  | disconnected =>
    unfold insertEntry
    split <;> exact .away rfl rfl
  | closed =>
    unfold insertEntry
    split <;> exact .away rfl rfl

theorem leaves_replace (budget : BudgetId) (actor : Option UserId) (enabled : Bool)
    (sources : List SourceWeight) (now : Instant) :
    Leaves Keeps (replace budget actor enabled sources now) := by
  intro db
  rcases replace_cases budget actor enabled sources now db with
    ⟨failure, db', failed, same⟩ | ⟨s, t, rfl, ran, replaced⟩
  · rw [failed]
    exact OnStores.of_store?_eq stepwise_keeps same
  · rcases first : firstError (checks s.store budget actor sources) with _ | e
    · rw [ran]
      exact .live (keeps_of_replaces replaced (firstError_checks_eq_none.1 first))
    · obtain ⟨db', refused, -⟩ := replace_refused enabled now first
      rw [ran] at refused
      cases refused

/-- Each call keeps what is to be kept, whether or not it succeeds. -/
theorem Call.leaves_keeps (c : Call) : Leaves Keeps c.operation := by
  cases c with
  | entry e now => exact (leaves_insertEntry e now).bind_pure fun _ => ()
  | payroll r z now =>
    exact (Payroll.Run.leaves_count allowsWrites_keeps z now r).bind_pure fun _ => ()
  | configure budget actor enabled sources now => exact leaves_replace _ _ _ _ _

/-! ## Sequences of calls -/

theorem pairwise_keeps (calls : List Call) (db : Database) :
    (Database.through (calls.map (·.operation)) db).Pairwise (OnStores Keeps) := by
  refine Database.pairwise_through (fun _ _ _ => OnStores.trans stepwise_keeps) fun m hm => ?_
  obtain ⟨c, -, rfl⟩ := List.mem_map.1 hm
  exact c.leaves_keeps

/-- Without entries and edges there is nothing that could be ill formed. -/
theorem wellFormed_of_nil {s : Store} (noEntries : s.entries = []) (noEdges : s.edges = []) :
    WellFormed s := by
  constructor <;> simp [noEntries, noEdges]

/-- From any budgets and members, without entries and edges, every store that a sequence of calls
passes through is well formed, and its ledger begins with all of each ledger before it. -/
theorem wellFormed_through (calls : List Call) (s : Session) (noEntries : s.store.entries = [])
    (noEdges : s.store.edges = []) :
    (∀ db ∈ Database.through (calls.map (·.operation)) (.live s),
      ∃ t, db.store? = some t ∧ WellFormed t) ∧
    (Database.through (calls.map (·.operation)) (.live s)).Pairwise
      (OnStores fun t u => t.entries <+: u.entries) := by
  have kept := pairwise_keeps calls (.live s)
  refine ⟨fun db passed => ?_, kept.imp fun keeps => keeps.imp Keeps.ledger⟩
  have before : WellFormed s.store := wellFormed_of_nil noEntries noEdges
  rcases Database.eq_or_of_mem_through kept passed with rfl | keeps
  · exact ⟨s.store, rfl, before⟩
  · cases keeps with
    | live keeps => exact ⟨_, rfl, keeps.wellFormed before⟩
    | away none => cases none

/-- Two budgets that hold nothing. -/
def unspent : Store where
  budgets := [⟨1, "rent", ⟨100⟩, none, false, Instant.first, Instant.first⟩,
    ⟨2, "food", ⟨50⟩, none, false, Instant.first, Instant.first⟩]
  lastBudget := 2
  budgets_byId := by decide

/-- The first is to draw on the second, goes into debt and is paid; that it should draw on itself is
refused. -/
def unspentCalls : List Call :=
  let april : Instant := { seconds := 1713182400, nanos := 0 }
  [.configure 1 none true [⟨2, 60⟩] april, .entry ⟨1, none, "", .debit, ⟨30⟩⟩ april,
    .payroll (.single 1 none false) .utc april, .configure 1 none true [⟨1, 5⟩] april]

theorem wellFormed_through_unspent :
    ∃ t, (∃ s, s.store = t ∧
        .live s ∈ Database.through (unspentCalls.map (·.operation)) (.live { store := unspent })) ∧
      t.entries.map Entry.signedCents = [-30, -30, 30, 100] ∧ t.edges = [⟨1, 2, 60⟩] ∧
        WellFormed t := by
  have ends : ((Database.through (unspentCalls.map (·.operation))
      (.live { store := unspent })).getLast?.bind (·.store?)).map
        (fun t => (t.entries.map Entry.signedCents, t.edges)) =
      some ([-30, -30, 30, 100], [⟨1, 2, 60⟩]) := by decide +kernel
  obtain ⟨t, last, lists⟩ := Option.map_eq_some_iff.1 ends
  obtain ⟨db, last, there⟩ := Option.bind_eq_some_iff.1 last
  have passed := List.mem_of_getLast? last
  obtain ⟨t', there', wellFormed⟩ :=
    (wellFormed_through unspentCalls { store := unspent } rfl rfl).1 db passed
  cases db with
  | live s =>
    cases there
    cases there'
    exact ⟨s.store, ⟨s, rfl, passed⟩, congrArg Prod.fst lists, congrArg Prod.snd lists, wellFormed⟩
  | disconnected => cases there
  | closed => cases there

end Paymaster

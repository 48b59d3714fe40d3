import Paymaster.Proofs.AutoBalance.Listing
import Paymaster.Proofs.Payroll.Commuting
import Paymaster.Proofs.Payroll.Unhindered

/-
  A user learns nothing of budgets that they are not a member of.
  Model (read this before the theorems). A user reads and replaces configurations and runs payroll
  for single budgets (`Request`), one request after the other, with any arguments, and sees the
  answers. What the user may know of a database are their memberships and, of each budget that they
  are a member of, its row, its entries and the edges by which it draws on others (`SameView`). A
  row's time of change and the ids of entries are not part of any answer.

  A request for any other budget is answered as if there were none, and changes nothing
  (`serve_denied`). The answer to a request for one of their own is settled by what the user may
  know, and what is then written looks the same to the user on both databases, even where a debit
  falls on a budget that they are not a member of (`serve_confidential`). So on two databases that
  look the same, all answers are the same (`answers_confidential`), unless one of the two can take
  no entry where the other can.
-/

namespace Paymaster

open Ledger LedgerM AutoBalance Payroll

/-! ## Requests -/

/-- What a user asks for. -/
inductive Request
  | read (budget : BudgetId)
  | replace (budget : BudgetId) (enabled : Bool) (sources : List SourceWeight)
  | pay (budget : BudgetId) (zone : Zone) (now : Instant) (force : Bool)

inductive Answer
  | configuration (c : Configuration)
  | replaced
  | paid (count : Nat)
deriving DecidableEq

namespace Request

def budget : Request → BudgetId
  | read budget => budget
  | replace budget .. => budget
  | pay budget .. => budget

/-- Serves the request when the clock of the database shows `clock`. -/
def serve (user : UserId) (clock : Instant) : Request → LedgerM Answer
  | read budget => do
    let c ← AutoBalance.read budget (some user)
    pure (.configuration c)
  | replace budget enabled sources => do
    AutoBalance.replace budget (some user) enabled sources clock
    pure .replaced
  | pay budget zone now force => do
    let count ← runBudget budget (some user) zone now force
    pure (.paid count)

end Request

/-- The answers to requests, each served when the clock shows its instant. -/
def answers (user : UserId) : List (Request × Instant) → Database → List (Except Failure Answer)
  | [], _ => []
  | (r, clock) :: requests, db =>
    let (answer, db) := (r.serve user clock).run db
    answer :: answers user requests db

/-! ## What a user may know -/

/-- Edges and members refer to budgets that exist. -/
structure Grounded (s : Store) : Prop where
  ends : ∀ e ∈ s.edges, s.hasBudget e.target ∧ s.hasBudget e.source
  members : ∀ m ∈ s.members, s.hasBudget m.budget

/-- Two stores in which a user may know the same. -/
structure SameView (user : UserId) (s s' : Store) : Prop where
  members : ∀ id, s'.isMember id user = s.isMember id user
  rows : ∀ id, s.isMember id user →
    (s'.budget? id).map Budget.undated = (s.budget? id).map Budget.undated
  entries : ∀ id, s.isMember id user →
    (s'.entriesOf id).map Entry.unnumbered = (s.entriesOf id).map Entry.unnumbered
  sources : ∀ id, s.isMember id user → s'.sourcesOf id = s.sourcesOf id

theorem Grounded.hasBudget {s : Store} (h : Grounded s) {id : BudgetId} {user : UserId}
    (member : s.isMember id user) : s.hasBudget id := by
  have listed : ⟨id, user⟩ ∈ s.members := by simpa [Store.isMember] using member
  exact h.members ⟨id, user⟩ listed

theorem grounded_of_wrote {now : Instant} {news : List NewEntry}
    {stamps : List (BudgetId × Instant)} {s t : Store} (h : Grounded s)
    (wrote : Wrote now news stamps s t) : Grounded t where
  ends := by
    simp only [wrote.edges, wrote.hasBudget]
    exact h.ends
  members := by
    simp only [wrote.members, wrote.hasBudget]
    exact h.members

variable {user : UserId} {s s' t t' : Store}

/-- The entries of a budget once new ones are written, but for their ids. -/
theorem unnumbered_entriesOf {now : Instant} {news : List NewEntry}
    {stamps : List (BudgetId × Instant)} (wrote : Wrote now news stamps s t) (id : BudgetId) :
    (t.entriesOf id).map Entry.unnumbered = (s.entriesOf id).map Entry.unnumbered ++
      (news.filter (·.budget = id)).map (·.record now 0) := by
  have kept (es : List Entry) : (es.filter (·.budget = id)).map Entry.unnumbered =
      (es.map Entry.unnumbered).filter (·.budget = id) := by
    rw [List.filter_map]
    rfl
  rw [Store.entriesOf, kept, unnumbered_of_wrote wrote, List.filter_append, ← kept,
    List.filter_map]
  rfl

/-- A view stays the same if the members stay, and what is seen of each budget stays the same. -/
theorem SameView.of_members_eq (h : SameView user s s') (one : t.members = s.members)
    (other : t'.members = s'.members)
    (seen : ∀ id, s.isMember id user →
      (t'.budget? id).map Budget.undated = (t.budget? id).map Budget.undated ∧
        (t'.entriesOf id).map Entry.unnumbered = (t.entriesOf id).map Entry.unnumbered ∧
          t'.sourcesOf id = t.sourcesOf id) : SameView user t t' := by
  have member (id : BudgetId) : t.isMember id user = s.isMember id user := by
    rw [Store.isMember, one, Store.isMember]
  have member' (id : BudgetId) : t'.isMember id user = s'.isMember id user := by
    rw [Store.isMember, other, Store.isMember]
  refine ⟨fun id => ?_, fun id here => ?_, fun id here => ?_, fun id here => ?_⟩
  · rw [member, member', h.members]
  all_goals rw [member] at here
  · exact (seen id here).1
  · exact (seen id here).2.1
  · exact (seen id here).2.2

/-- What is written to both stores leaves the same view of them. -/
theorem SameView.wrote (h : SameView user s s') {now : Instant} {news : List NewEntry}
    {stamps : List (BudgetId × Instant)} (one : Wrote now news stamps s t)
    (other : Wrote now news stamps s' t') : SameView user t t' := by
  refine h.of_members_eq one.members other.members fun id here => ⟨?_, ?_, ?_⟩
  · have stamped (row : Option Budget) : (row.map (Budget.stampAll stamps)).map Budget.undated =
        (row.map Budget.undated).map fun b => (b.stampAll stamps).undated := by
      cases row
      · rfl
      · exact congrArg some (Budget.undated_stampAll stamps _).symm
    rw [one.budget?, other.budget?, stamped, stamped, h.rows id here]
  · rw [unnumbered_entriesOf one, unnumbered_entriesOf other, h.entries id here]
  · rw [Store.sourcesOf, other.edges, Store.sourcesOf, one.edges]
    exact h.sources id here

/-! ## Replacing a configuration -/

variable {budget : BudgetId} {enabled : Bool} {sources : List SourceWeight} {now now' : Instant}

theorem grounded_of_replaces {actor : Option UserId} (h : Grounded s)
    (checked : Acceptable s budget actor sources)
    (replaces : Replaces budget enabled sources now s t) : Grounded t where
  ends e he := by
    rw [replaces.hasBudget, replaces.hasBudget]
    rcases (replaces.edges e).1 he with new | ⟨old, -⟩
    · obtain ⟨x, hx, -, rfl⟩ := mem_edges.1 new
      exact ⟨checked.present, checked.sources_present x hx⟩
    · exact h.ends e old
  members := by
    simp only [replaces.members, replaces.hasBudget]
    exact h.members

/-- The same configuration in both stores leaves the same view of them. -/
theorem SameView.replaces (h : SameView user s s') (one : Replaces budget enabled sources now s t)
    (other : Replaces budget enabled sources now' s' t') : SameView user t t' := by
  refine h.of_members_eq one.members other.members fun id here => ⟨?_, ?_, ?_⟩
  · have configured (now : Instant) (row : Option Budget) :
        (row.map (Configured budget enabled now)).map Budget.undated =
          (row.map Budget.undated).map fun b =>
            (Configured budget enabled Instant.first b).undated := by
      cases row
      · rfl
      · exact congrArg some (undated_configured _ _ _ _ _)
    rw [one.budget?, other.budget?, configured, configured, h.rows id here]
  · rw [Store.entriesOf, other.entries, Store.entriesOf, one.entries]
    exact h.entries id here
  · have drawn {now : Instant} {s t : Store} (replaces : Replaces budget enabled sources now s t)
        (e : Edge) : e ∈ t.sourcesOf id ↔
          e ∈ edges budget sources ∧ e.target = id ∨ e ∈ s.sourcesOf id ∧ e.target ≠ budget := by
      simp only [Store.sourcesOf, List.mem_filter, decide_eq_true_eq, replaces.edges]
      tauto
    refine eq_of_ascending (fun _ _ => word_asymm) (ascending_sourcesOf t' id)
      (ascending_sourcesOf t id) fun e => ?_
    rw [drawn one, drawn other, h.sources id here]

/-! ## What both answer -/

/-- Two stores, each of them in order, in which a user may know the same. -/
structure Indistinct (user : UserId) (s s' : Store) : Prop where
  view : SameView user s s'
  grounded : Grounded s
  grounded' : Grounded s'

theorem Indistinct.isMember (h : Indistinct user s s') {id : BudgetId}
    (member : s.isMember id user) : s'.isMember id user := by
  rw [h.view.members]
  exact member

theorem firstError_flatMap_congr {α : Type} {f g : α → List Check} {xs : List α}
    (h : ∀ x ∈ xs, firstError (f x) = firstError (g x)) :
    firstError (xs.flatMap f) = firstError (xs.flatMap g) := by
  induction xs with
  | nil => rfl
  | cons x xs ih =>
    rw [List.flatMap_cons, List.flatMap_cons, firstError_append, firstError_append,
      h x List.mem_cons_self, ih fun y hy => h y (List.mem_cons_of_mem x hy)]

/-- Whether a source exists is only looked at where the user is a member. -/
theorem Indistinct.firstError_checks (h : Indistinct user s s') (member : s.isMember budget user)
    (sources : List SourceWeight) : firstError (checks s' budget (some user) sources) =
      firstError (checks s budget (some user) sources) := by
  have admits (id : BudgetId) : s'.admits id (some user) = s.admits id (some user) :=
    h.view.members id
  have listed : firstError (sources.flatMap (sourceChecks s' (some user))) =
      firstError (sources.flatMap (sourceChecks s (some user))) := by
    refine firstError_flatMap_congr fun x _ => ?_
    simp only [sourceChecks, firstError_cons, admits]
    by_cases granted : s.admits x.source (some user)
    · rw [h.grounded.hasBudget granted, h.grounded'.hasBudget (h.isMember granted)]
    · rw [if_neg granted, if_neg granted]
  simp only [checks, checksBefore, firstError_append, firstError_cons, admits, listed,
    h.grounded.hasBudget member, h.grounded'.hasBudget (h.isMember member)]

/-- Entries that differ in their ids at most add up to the same. -/
theorem Indistinct.balance (h : Indistinct user s s') {id : BudgetId}
    (member : s.isMember id user) : s'.balance id = s.balance id := by
  have blind (es : List Entry) :
      es.foldlM (fun total e => Money.ofInt? (total.toInt + e.signedCents)) Money.zero =
        (es.map Entry.unnumbered).foldlM
          (fun total e => Money.ofInt? (total.toInt + e.signedCents)) Money.zero := by
    rw [List.foldlM_map]
    rfl
  rw [Store.balance, Store.balance, blind, h.view.entries id member, ← blind]

theorem Indistinct.seenAlike (h : Indistinct user s s') {id : BudgetId}
    (member : s.isMember id user) : SeenAlike id s s' where
  balance := h.balance member
  sources := h.view.sources id member
  present := ⟨h.grounded.hasBudget member, h.grounded'.hasBudget (h.isMember member)⟩
  drawn e he := by
    have he' := he
    rw [← h.view.sources id member] at he'
    exact ⟨(h.grounded.ends e (List.mem_filter.1 he).1).2,
      (h.grounded'.ends e (List.mem_filter.1 he').1).2⟩

/-! ## One request -/

/-- Each of the two gives an answer, and unless one of them is hindered, it is the same and the
stores that are left again cannot be told apart. -/
def ServesAlike (user : UserId) (m m' : LedgerM Answer) (s s' : Session) : Prop :=
  ∃ answer answer' t t', m.run (.live s) = (answer, .live t) ∧
    m'.run (.live s') = (answer', .live t') ∧
    (Hindered answer ∨ Hindered answer' ∨ answer' = answer ∧ Indistinct user t.store t'.store)

theorem run_of_denied {α : Type} {id : BudgetId} {s : Session} (denied : ¬s.store.isMember id user)
    (k : Unit → LedgerM α) : (ensureAccess id (some user) >>= k).run (.live s) =
      (.error (.error (.budgetNotFound id)), .live s) := by
  rw [LedgerM.run_bind, run_ensureAccess, if_neg (show ¬s.store.admits id (some user) from denied)]

/-- To a user who is not a member of it, a budget looks as if it did not exist. -/
theorem serve_denied {r : Request} {s : Session} (denied : ¬s.store.isMember r.budget user)
    (clock : Instant) : (r.serve user clock).run (.live s) =
      (.error (.error (.budgetNotFound r.budget)), .live s) := by
  cases r with
  | read budget =>
    rw [Request.serve, AutoBalance.read, bind_assoc]
    exact run_of_denied denied _
  | replace budget enabled sources =>
    rw [Request.serve, replace_eq, bind_assoc]
    exact run_of_denied denied _
  | pay budget zone now force =>
    rw [Request.serve, runBudget, budgetReport_eq, bind_assoc, bind_assoc]
    exact run_of_denied denied _

theorem exists_live_of_store? {db : Database} {s : Store} (h : db.store? = some s) :
    ∃ t : Session, db = .live t ∧ t.store = s := by
  cases db with
  | live t => exact ⟨t, rfl, Option.some.inj h⟩
  | disconnected => cases h
  | closed => cases h

variable {s s' : Session} (h : Indistinct user s.store s'.store)
include h

theorem serves_read (member : s.store.isMember budget user) (clock clock' : Instant) :
    ServesAlike user ((Request.read budget).serve user clock)
      ((Request.read budget).serve user clock') s s' := by
  have member' := h.isMember member
  obtain ⟨b, row⟩ := Option.isSome_iff_exists.1 (h.grounded.hasBudget member)
  obtain ⟨b', row'⟩ := Option.isSome_iff_exists.1 (h.grounded'.hasBudget member')
  have same := h.view.rows budget member
  rw [row, row', Option.map_some, Option.map_some] at same
  have dates : b'.undated = b.undated := Option.some.inj same
  have flag : b'.autoBalance = b.autoBalance := by
    show b'.undated.autoBalance = b.undated.autoBalance
    rw [dates]
  have serve (clock : Instant) {s : Session} {b : Budget} (member : s.store.isMember budget user)
      (row : s.store.budget? budget = some b) :
      ((Request.read budget).serve user clock).run (.live s) = (.ok (.configuration
        ⟨b.autoBalance, (s.store.sourcesOf budget).map fun e => ⟨e.source, e.weight⟩⟩),
        .live s) := by
    have granted : s.store.admits budget (some user) := member
    rw [Request.serve, LedgerM.run_bind, run_read granted row]
    rfl
  refine ⟨_, _, s, s', serve clock member row, serve clock' member' row', .inr (.inr ⟨?_, h⟩)⟩
  rw [flag, h.view.sources budget member]

theorem serves_replace (member : s.store.isMember budget user) (clock clock' : Instant) :
    ServesAlike user ((Request.replace budget enabled sources).serve user clock)
      ((Request.replace budget enabled sources).serve user clock') s s' := by
  have one := (replace_answers budget (some user) enabled sources clock s).2
  have other := (replace_answers budget (some user) enabled sources clock' s').2
  rw [h.firstError_checks member] at other
  have passed' := h.firstError_checks member sources
  unfold ServesAlike
  rw [Request.serve, Request.serve, LedgerM.run_bind, LedgerM.run_bind]
  rcases first : firstError (checks s.store budget (some user) sources) with _ | e
  · rw [first] at one other passed'
    obtain ⟨t, _, ran, replaces, -⟩ := one
    obtain ⟨t', _, ran', replaces', -⟩ := other
    rw [ran, ran']
    exact ⟨_, _, _, _, rfl, rfl, .inr (.inr ⟨rfl, {
      view := h.view.replaces replaces replaces'
      grounded := grounded_of_replaces h.grounded (firstError_checks_eq_none.1 first) replaces
      grounded' :=
        grounded_of_replaces h.grounded' (firstError_checks_eq_none.1 passed') replaces' }⟩)⟩
  · rw [first] at one other
    obtain ⟨db, ran, kept⟩ := one
    obtain ⟨db', ran', kept'⟩ := other
    rw [ran, ran']
    obtain ⟨t, rfl, there⟩ := exists_live_of_store? kept
    obtain ⟨t', rfl, there'⟩ := exists_live_of_store? kept'
    refine ⟨_, _, t, t', rfl, rfl, .inr (.inr ⟨rfl, ?_⟩)⟩
    rw [there, there']
    exact h

theorem serves_pay (member : s.store.isMember budget user) (zone : Zone) (now : Instant)
    (force : Bool) (clock clock' : Instant) :
    ServesAlike user ((Request.pay budget zone now force).serve user clock)
      ((Request.pay budget zone now force).serve user clock') s s' := by
  let p : Payment := ⟨budget, some user, zone, now, force⟩
  have serve (clock : Instant) (s : Session) :
      ∃ t : Session, ((Request.pay budget zone now force).serve user clock).run (.live s) =
        ((p.settle s.store).1.map fun report => .paid report.length, .live t) ∧
          t.store = (p.settle s.store).2 := by
    obtain ⟨t, ran, there⟩ := p.run_eq_settle s
    refine ⟨t, ?_, there⟩
    show (p.run >>= fun count => pure (Answer.paid count)).run (.live s) = _
    rw [LedgerM.run_bind, ran]
    rcases (p.settle s.store).1 with failure | report <;> rfl
  obtain ⟨t, ran, there⟩ := serve clock s
  obtain ⟨t', ran', there'⟩ := serve clock' s'
  refine ⟨_, _, t, t', ran, ran', ?_⟩
  rcases settle_unhindered (p := p) (h.view.members budget) (h.seenAlike member)
    (h.view.rows budget member) with ⟨failure, hindered, hindrance⟩ |
    ⟨failure, hindered, hindrance⟩ | same
  · rw [hindered]
    exact .inl ⟨failure, rfl, hindrance⟩
  · rw [hindered]
    exact .inr (.inl ⟨failure, rfl, hindrance⟩)
  · have wrote := (p.touches_settle s.store).wrote
    have wrote' := (p.touches_settle s'.store).wrote
    rw [same] at wrote' ⊢
    rw [← there] at wrote
    rw [← there'] at wrote'
    exact .inr (.inr ⟨rfl, {
      view := h.view.wrote wrote wrote'
      grounded := grounded_of_wrote h.grounded wrote
      grounded' := grounded_of_wrote h.grounded' wrote' }⟩)

/-- Whatever a user asks for is answered alike. -/
theorem serve_confidential (r : Request) (clock clock' : Instant) :
    ServesAlike user (r.serve user clock) (r.serve user clock') s s' := by
  by_cases member : s.store.isMember r.budget user
  · cases r with
    | read budget => exact serves_read h member clock clock'
    | replace budget enabled sources => exact serves_replace h member clock clock'
    | pay budget zone now force => exact serves_pay h member zone now force clock clock'
  · have member' : ¬s'.store.isMember r.budget user := by
      rw [h.view.members]
      exact member
    exact ⟨_, _, s, s', serve_denied member clock, serve_denied member' clock',
      .inr (.inr ⟨rfl, h⟩)⟩

omit h

/-! ## All requests -/

theorem answers_congr {s s' : Session} (h : Indistinct user s.store s'.store)
    {calls calls' : List (Request × Instant)} (same : calls'.map (·.1) = calls.map (·.1))
    (unhindered : ∀ answer ∈ answers user calls (.live s) ++ answers user calls' (.live s'),
      ¬Hindered answer) : answers user calls' (.live s') = answers user calls (.live s) := by
  induction calls generalizing calls' s s' with
  | nil =>
    rw [List.map_eq_nil_iff.1 same]
    rfl
  | cons call calls ih =>
    obtain ⟨r, clock⟩ := call
    rcases calls' with _ | ⟨⟨r', clock'⟩, calls'⟩
    · cases same
    obtain ⟨here, others⟩ := List.cons.inj same
    obtain rfl : r' = r := here
    obtain ⟨answer, answer', t, t', ran, ran', outcome⟩ := serve_confidential h r' clock clock'
    rw [answers, answers, ran, ran'] at unhindered ⊢
    rcases outcome with hindered | hindered | ⟨rfl, indistinct⟩
    · exact absurd hindered (unhindered answer (by simp))
    · exact absurd hindered (unhindered answer' (by simp))
    · have rest : answers user calls' (.live t') = answers user calls (.live t) := by
        refine ih indistinct others fun later listed => unhindered later ?_
        rcases List.mem_append.1 listed with one | other
        · exact List.mem_append_left _ (List.mem_cons_of_mem _ one)
        · exact List.mem_append_right _ (List.mem_cons_of_mem _ other)
      dsimp only
      rw [rest]

/-- To a user who asks one thing after the other, two databases give the same answers if the user
may know the same of them, whatever else is in them and whatever time it is, as long as neither is
hindered. In particular, what they ask of a budget that they are not a member of is answered as if
it did not exist, whether or not it does, and changes nothing. -/
theorem answers_confidential (user : UserId) :
    (∀ s s' : Session, Indistinct user s.store s'.store →
      ∀ calls calls' : List (Request × Instant), calls'.map (·.1) = calls.map (·.1) →
        (∀ answer ∈ answers user calls (.live s) ++ answers user calls' (.live s'),
          ¬Hindered answer) →
        answers user calls' (.live s') = answers user calls (.live s)) ∧
    ∀ (s : Session) (r : Request) (clock : Instant), ¬s.store.isMember r.budget user →
      (r.serve user clock).run (.live s) =
        (.error (.error (.budgetNotFound r.budget)), .live s) :=
  ⟨fun _ _ h _ _ same unhindered => answers_congr h same unhindered,
    fun _ _ clock denied => serve_denied denied clock⟩

/-! ## Two households -/

/-- A user's budget, which draws on another one. -/
def quiet : Store where
  budgets := [⟨1, "rent", ⟨100⟩, none, true, noon, noon⟩, ⟨2, "rest", ⟨0⟩, none, false, noon, noon⟩]
  entries := [⟨1, 1, none, "", .debit, ⟨30⟩, noon, noon⟩]
  edges := [⟨1, 2, 3⟩]
  members := [⟨1, 7⟩]
  lastBudget := 2
  lastEntry := 1
  budgets_byId := by decide
  entries_byId := by decide
  entries_le := by decide
  edges_byKey := by decide
  members_byKey := by decide

/-- The same, where the other one is well filled, and one more budget is someone else's. -/
def busy : Store where
  budgets := [⟨1, "rent", ⟨100⟩, none, true, noon, noon⟩, ⟨2, "gold", ⟨5⟩, none, true, noon, noon⟩,
    ⟨3, "fun", ⟨9⟩, none, true, noon, noon⟩]
  entries := [⟨4, 2, none, "", .credit, ⟨900⟩, noon, noon⟩,
    ⟨6, 1, none, "", .debit, ⟨30⟩, noon, noon⟩]
  edges := [⟨1, 2, 3⟩, ⟨2, 3, 4⟩]
  members := [⟨1, 7⟩, ⟨3, 8⟩]
  lastBudget := 3
  lastEntry := 6
  budgets_byId := by decide
  entries_byId := by decide
  entries_le := by decide
  edges_byKey := by decide
  members_byKey := by decide

/-- The user may know the same of both. -/
theorem indistinct_quiet_busy : Indistinct 7 quiet busy := by
  have member (id : BudgetId) : quiet.isMember id 7 = decide (id = 1) := by
    simp [Store.isMember, quiet]
  have only {id : BudgetId} (here : quiet.isMember id 7) : id = 1 := by simpa [member] using here
  refine ⟨⟨fun id => ?_, fun id here => ?_, fun id here => ?_, fun id here => ?_⟩,
    ⟨by decide, by decide⟩, ⟨by decide, by decide⟩⟩
  · rw [member]
    simp [Store.isMember, busy]
  · rw [only here]
    decide
  · rw [only here]
    decide
  · rw [only here]
    decide

/-- The user reads, pays, and asks for what is not theirs. -/
def asked : List (Request × Instant) :=
  [(.pay 1 .utc noon false, noon), (.read 1, noon), (.read 3, noon),
    (.replace 1 false [⟨2, 50⟩], noon)]

/-- On both they learn that their budget was paid and what it draws on, and nothing of the other
two. -/
theorem answers_confidential_asked :
    answers 7 asked (.live { store := busy }) = answers 7 asked (.live { store := quiet }) ∧
      answers 7 asked (.live { store := quiet }) =
        [.ok (.paid 1), .ok (.configuration ⟨true, [⟨2, 3⟩]⟩), .error (.error (.budgetNotFound 3)),
          .error (.error (.budgetNotFound 2))] := by
  have given : ∀ store, store = quiet ∨ store = busy →
      answers 7 asked (.live { store }) =
        [.ok (.paid 1), .ok (.configuration ⟨true, [⟨2, 3⟩]⟩), .error (.error (.budgetNotFound 3)),
          .error (.error (.budgetNotFound 2))] := by
    rintro store (rfl | rfl) <;> decide +kernel
  refine ⟨(answers_confidential 7).1 _ _ indistinct_quiet_busy _ _ rfl ?_, given _ (.inl rfl)⟩
  rw [given _ (.inl rfl), given _ (.inr rfl)]
  rintro answer listed ⟨failure, rfl, hindrance⟩
  rcases hindrance with rfl | rfl <;> revert listed <;> decide

end Paymaster

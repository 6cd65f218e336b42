import WealthFinder.Pipeline.PersistEntities

/-!
# Programs that run in one transaction

A program sends statements and lets their errors propagate.  Its meaning is what it does
to the tables on its own.  Under `transaction()` it is carried out as a whole or not at
all, whatever fails around it.
-/

set_option autoImplicit false

namespace WealthFinder.Pipeline.Database

/-- A block that catches nothing. -/
inductive Program (S R α : Type) where
  | done (value : α)
  | execute (statement : S) (next : Option R → Program S R α)

namespace Program

variable {S T R α σ : Type}

/-- What the program does to the tables, and its value. -/
def meaning (exec : S → T → Except DriverError (T × Option R)) :
    Program S R α → T → Except DriverError (T × α)
  | .done value, tables => .ok (tables, value)
  | .execute statement next, tables =>
      match exec statement tables with
      | .error error => .error error
      | .ok (after, row) => (next row).meaning exec after

/-- The program under `async with transaction()`.  `held` is what the caller has until the
block ends, and `hold` what it then makes of the value. -/
def block (held : σ) (hold : α → σ) : Program S R α → Block S R σ
  | .done value => .ended (hold value) none
  | .execute statement next => .execute statement fun reply =>
      match reply with
      | .ok row => (next row).block held hold
      | .error raised => .ended held (some raised)

theorem meaning_ok {exec : S → T → Except DriverError (T × Option R)} {statement : S}
    {next : Option R → Program S R α} {tables after : T} {row : Option R}
    (executed : exec statement tables = .ok (after, row)) :
    (Program.execute statement next).meaning exec tables = (next row).meaning exec after := by
  rw [meaning, executed]

theorem meaning_error {exec : S → T → Except DriverError (T × Option R)} {statement : S}
    {next : Option R → Program S R α} {tables : T} {error : DriverError}
    (executed : exec statement tables = .error error) :
    (Program.execute statement next).meaning exec tables = .error error := by
  rw [meaning, executed]

/-! ## The block -/

/-- How the block ends: it raises and its statements are not stored, or it has computed
the program's meaning in its transaction. -/
inductive BlockEnded (program : Program S R α) (env : Environment S T R) (conn : Nat)
    (held : σ) (hold : α → σ) (view : T) (before : World S T σ) :
    Except Raised Unit → World S T σ → Prop where
  | raised {raised : Raised} {left : World S T σ} (stored : left.stored = before.stored)
      (caller : left.caller = held)
      (why : (∃ number fault, env.statement number = some fault) ∨
        ∃ error, program.meaning env.exec view = .error error) :
      BlockEnded program env conn held hold view before (.error raised) left
  | computed {left : World S T σ} {final : T} {value : α}
      (means : program.meaning env.exec view = .ok (final, value))
      (stored : left.stored = before.stored) (caller : left.caller = hold value)
      (session : left.sessions conn = .inTransaction final) :
      BlockEnded program env conn held hold view before (.ok ()) left

/-- The induction is on the program; the view of the transaction moves along with it. -/
theorem runBlock_ended (program : Program S R α) (env : Environment S T R) (conn : Nat)
    (held : σ) (hold : α → σ) (number : Nat) {view : T} {world : World S T σ}
    (session : world.sessions conn = .inTransaction view) : ∃ result left,
      runBlock env conn number (program.block held hold) world = (result, left) ∧
      BlockEnded program env conn held hold view world result left := by
  induction program generalizing number view world with
  | done value =>
      exact ⟨.ok (), _, rfl, .computed rfl rfl rfl session⟩
  | execute statement next ih =>
      cases faulty : env.statement number with
      | some fault =>
          obtain ⟨after, sent, stored⟩ := Persistent.send_lost env session statement fault
          refine ⟨.error fault.raised.translated,
            ({ after with caller := held }.log (.blockEnded (some fault.raised.translated))),
            ?_, .raised stored rfl (Or.inl ⟨number, fault, faulty⟩)⟩
          rw [block, runBlock, faulty, sent]
          rfl
      | none =>
          obtain ⟨answers, refuses⟩ := Persistent.send_answered env session statement
          cases executed : env.exec statement view with
          | error error =>
              obtain ⟨after, sent, stored⟩ := refuses error executed
              let raised := (Raised.driver error).translated
              refine ⟨.error raised,
                ({ after with caller := held }.log (.blockEnded (some raised))), ?_,
                .raised stored rfl (Or.inr ⟨error, meaning_error executed⟩)⟩
              rw [block, runBlock, faulty, sent]
              rfl
          | ok reply =>
              obtain ⟨tables, row⟩ := reply
              obtain ⟨after, sent, afterSession, stored⟩ := answers tables row executed
              obtain ⟨result, left, ran, ended⟩ := ih row (number + 1) afterSession
              refine ⟨result, left, ?_, ?_⟩
              · rw [block, runBlock, faulty, sent]
                exact ran
              · have same := @meaning_ok S T R α env.exec statement next view tables row executed
                cases ended with
                | raised leftStored caller why =>
                    refine .raised (leftStored.trans stored) caller ?_
                    rw [same]
                    exact why
                | computed means leftStored caller leftSession =>
                    refine .computed ?_ (leftStored.trans stored) caller leftSession
                    rw [same]
                    exact means

/-! ## The transaction -/

/-- How a call ends.  Only a COMMIT that is applied and whose reply is lost stores the
tables of a call that raises. -/
inductive Atomic (program : Program S R α) (env : Environment S T R) (held : σ) (hold : α → σ)
    (before : T) : Except Raised Unit → World S T σ → Prop where
  | undone {raised : Raised} {after : World S T σ} (stored : after.stored = before) :
      Atomic program env held hold before (.error raised) after
  | stored {after : World S T σ} {final : T} {value : α}
      (means : program.meaning env.exec before = .ok (final, value))
      (stored : after.stored = final) (caller : after.caller = hold value) :
      Atomic program env held hold before (.ok ()) after
  | replyLost {raised : Raised} {after : World S T σ} {final : T} {value : α} {fault : Fault}
      (means : program.meaning env.exec before = .ok (final, value))
      (stored : after.stored = final) (commits : env.commit = some fault)
      (applied : fault.applied = true) :
      Atomic program env held hold before (.error raised) after

/-- Whatever fails at whichever await, the call is atomic. -/
theorem transaction_atomic (program : Program S R α) (maxRetry : Int) (env : Environment S T R)
    (held : σ) (hold : α → σ) (world : World S T σ) : ∃ result after,
      transaction maxRetry env (program.block held hold) world = (result, after) ∧
      Atomic program env held hold world.stored result after := by
  rcases dbWriteWithRetry_begin maxRetry env world with
    ⟨-, raised, after, begins, stored, -⟩ | ⟨-, conn, opened, begins, session, stored⟩
  · refine ⟨.error raised, after, ?_, .undone stored⟩
    rw [transaction, begins]
  · obtain ⟨result, left, ran, ended⟩ :=
      runBlock_ended program env conn held hold 0 session
    have call : ∀ result after,
        runInTransaction env conn (program.block held hold) opened = (result, after) →
        transaction maxRetry env (program.block held hold) world = (result, after) := by
      intro result after closed
      rw [transaction, begins]
      exact closed
    cases ended with
    | raised leftStored caller why =>
        obtain ⟨other, after, closed, kept, -⟩ := runInTransaction_raised ran
        exact ⟨.error other, after, call _ _ closed,
          .undone (kept.trans (leftStored.trans stored))⟩
    | @computed left final value means leftStored caller leftSession =>
        cases commits : env.commit with
        | none =>
            obtain ⟨after, closed, committed, kept⟩ :=
              runInTransaction_committed ran leftSession commits
            exact ⟨.ok (), after, call _ _ closed,
              .stored means committed (kept.trans caller)⟩
        | some fault =>
            obtain ⟨other, after, closed, lost, -⟩ :=
              runInTransaction_lost ran leftSession commits
            refine ⟨.error other, after, call _ _ closed, ?_⟩
            cases applied : fault.applied with
            | true =>
                rw [applied, if_pos rfl] at lost
                exact .replyLost means lost commits applied
            | false =>
                rw [applied, if_neg (by decide)] at lost
                exact .undone (lost.trans (leftStored.trans stored))

/-- A call that is opened, and in which nothing fails, returns. -/
theorem transaction_returns (program : Program S R α) {maxRetry : Int}
    {env : Environment S T R} (held : σ) (hold : α → σ) {world : World S T σ} {final : T}
    {value : α} (opens : Opens env.toFaults maxRetry)
    (answered : ∀ number, env.statement number = none) (commits : env.commit = none)
    (means : program.meaning env.exec world.stored = .ok (final, value)) : ∃ after,
      transaction maxRetry env (program.block held hold) world = (.ok (), after) ∧
      after.stored = final ∧ after.caller = hold value := by
  rcases dbWriteWithRetry_begin maxRetry env world with
    ⟨unopened, -⟩ | ⟨-, conn, opened, begins, session, stored⟩
  · exact absurd opens unopened
  · obtain ⟨result, left, ran, ended⟩ :=
      runBlock_ended program env conn held hold 0 session
    cases ended with
    | raised leftStored caller why =>
        rcases why with ⟨number, fault, faulty⟩ | ⟨error, fails⟩
        · rw [answered number] at faulty
          cases faulty
        · rw [means] at fails
          cases fails
    | computed means' leftStored caller leftSession =>
        rw [means] at means'
        cases means'
        obtain ⟨after, closed, committed, kept⟩ :=
          runInTransaction_committed ran leftSession commits
        refine ⟨after, ?_, committed, kept.trans caller⟩
        rw [transaction, begins]
        exact closed

end Program

end WealthFinder.Pipeline.Database

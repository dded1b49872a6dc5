import SnowflakeSql.Client
import SnowflakeSql.Proofs.Query.Compiled
import SnowflakeSql.Proofs.Session.Starts

/-!
# What sessions are given to run

`System.submissions` lists what the sessions were given to run, read off the calls.  It grows by
the poll that starts a statement and by no other (`submissions_of_asks_nil`,
`submissions_poll_execute`, `submissions_poll_stream`).  So a query has one submission for either
way to run it.  The two have the same text and the same binds.  Their options are not the same:
streaming passes the options of the query on, and a response as a whole is asked for without any
(`options_of_submitted`).
-/

namespace SnowflakeSql

/-- What a call gives a session to run. -/
def Call.submission? : Call → Option Submission
  | .execute _ submission | .stream submission => some submission
  | _ => none

namespace System

variable {σ : Type} {B : Backend σ}

/-- What calls give sessions to run, with the numbers of the sessions. -/
def submissionsOf (events : List Event) : List (Nat × Submission) :=
  events.filterMap fun event => event.call.submission?.map fun submission =>
    (event.connection, submission)

/-- What sessions have been given to run. -/
def submissions (s : System σ) : List (Nat × Submission) := submissionsOf s.events

theorem submissionsOf_append (events events' : List Event) :
    submissionsOf (events ++ events') = submissionsOf events ++ submissionsOf events' :=
  List.filterMap_append

/-- A session is to start a statement exactly if it is given something to run. -/
theorem startsOf_eq_map_fst (events : List Event) :
    startsOf events = (submissionsOf events).map Prod.fst := by
  induction events with
  | nil => rfl
  | cons event events ih =>
    obtain ⟨i, call⟩ := event
    unfold startsOf submissionsOf at ih ⊢
    cases call <;> simpa [Call.starts, Call.submission?] using ih

/-- Where nothing is started, nothing is given to a session. -/
theorem submissions_of_asks_nil {s s' : System σ} (h : Asks s s' []) :
    s'.submissions = s.submissions := by
  obtain ⟨calls, hcalls, hstarts⟩ := h
  have hnone : submissionsOf calls = [] := by
    rw [startsOf_eq_map_fst] at hstarts
    exact List.map_eq_nil_iff.mp hstarts
  unfold submissions
  rw [hcalls, submissionsOf_append, hnone, List.append_nil]

theorem submissions_record (s : System σ) (i : Nat) (call : Call) :
    (s.record i call).submissions =
      s.submissions ++ (call.submission?.map fun submission => (i, submission)).toList := by
  have hone : submissionsOf [⟨i, call⟩] =
      (call.submission?.map fun submission => (i, submission)).toList := by
    cases call <;> rfl
  unfold submissions record
  rw [submissionsOf_append, hone]

theorem submissions_startStatement (i : Nat) (statement : Statement) (s : System σ) :
    (startStatement B i statement s).2.submissions =
      s.submissions ++ [(i, .buffered statement)] := by
  have hstart : ∀ s₁ : System σ, s₁.events = s.events → ∀ running,
      (s₁.record i (.execute running (.buffered statement))).submissions =
        s.submissions ++ [(i, .buffered statement)] := by
    intro s₁ hevents running
    rw [submissions_record]
    unfold submissions
    rw [hevents]
    rfl
  unfold startStatement
  dsimp only
  split_ifs
  · -- Telling the caller gives nothing to run.
    rw [submissions_record]
    exact (List.append_nil _).trans (hstart _ rfl _)
  · exact hstart _ rfl _

/-- The poll that starts a buffered statement gives it to the session of its connection. -/
theorem submissions_poll_execute {s : System σ} {n i : Nat} {statement : Statement}
    {finish : Option Response → Reply} (htask : s.tasks n = .execute i statement finish none)
    (htext : statement.isEmpty = false) (hidle : s.slotOf i = .idle) :
    (s.poll B n).2.submissions = s.submissions ++ [(i, .buffered statement)] := by
  have hpoll : pollTask B (s.tasks n) s = pollExecute B i statement finish none s := by
    rw [htask]
    rfl
  rw [poll_snd, hpoll, pollExecute_of_idle B finish htext hidle]
  calc (awaitRows B i statement finish _ _).2.submissions
      = (startStatement B i statement (s.reserved i)).2.submissions :=
        submissions_of_asks_nil (asks_awaitRows B i statement finish _ _)
    _ = s.submissions ++ [(i, .buffered statement)] :=
        submissions_startStatement i statement (s.reserved i)

/-- The poll that opens the cursor of a stream gives the stream to the session of its connection. -/
theorem submissions_poll_stream {s : System σ} {n i channel : Nat} {statement : Statement}
    (htask : s.tasks n = .stream i statement channel .fresh)
    (htext : statement.isEmpty = false) (hidle : s.slotOf i = .idle) :
    (s.poll B n).2.submissions = s.submissions ++ [(i, .streaming statement)] := by
  have hpoll : pollTask B (s.tasks n) s = pollStream B i statement channel .fresh s := by
    rw [htask]
    rfl
  rw [poll_snd, hpoll, pollStream_of_idle B channel htext hidle]
  calc (flow B i statement channel s.cursorCount none _).2.submissions
      = (cursorOpened B i statement (s.reserved i)).submissions :=
        submissions_of_asks_nil (asks_flow B i statement channel s.cursorCount none _)
    _ = s.submissions ++ [(i, .streaming statement)] := by
        unfold cursorOpened
        rw [submissions_record]
        rfl

end System

/-! ## The options of a query -/

/-- Running a query for its response and running it for its rows one by one submit the same text
and the same binds.  The options of the query go with the rows, but for the one that turns their
streaming on or off; with the response none of them goes. -/
theorem options_of_submitted {client : Client} {query : Query} {statement : Statement}
    (hcompile : client.compileQuery query = .ok statement) (htext : statement.isEmpty = false) :
    ∃ buffered streamed : Submission,
      (∀ (σ : Type) (B : Backend σ) (s : System σ) (n i : Nat) (finish : Option Response → Reply),
        s.tasks n = .execute i statement finish none → s.slotOf i = .idle →
          (s.poll B n).2.submissions = s.submissions ++ [(i, buffered)]) ∧
      (∀ (σ : Type) (B : Backend σ) (s : System σ) (n i channel : Nat),
        s.tasks n = .stream i statement channel .fresh → s.slotOf i = .idle →
          (s.poll B n).2.submissions = s.submissions ++ [(i, streamed)]) ∧
      buffered.sqlText = streamed.sqlText ∧ buffered.binds = streamed.binds ∧
      (∀ key, key ≠ Submission.streamOption →
        streamed.options.get? key = query.options.get? key ∧
        buffered.options.get? key = none) ∧
      ((∀ key, key ≠ Submission.streamOption →
          buffered.options.get? key = streamed.options.get? key) ↔
        ∀ key, key ≠ Submission.streamOption → query.options.get? key = none) := by
  have hoptions : statement.options = query.options := Query.options_of_compile hcompile
  have hstreamed : ∀ key, key ≠ Submission.streamOption →
      (Submission.streaming statement).options.get? key = query.options.get? key := by
    intro key hkey
    change (statement.options.erase Submission.streamOption).get? key = _
    rw [Fields.get?_erase, if_neg (Ne.symm hkey), hoptions]
  refine ⟨.buffered statement, .streaming statement, ?_, ?_, Submission.buffered_sqlText statement,
    Submission.buffered_binds statement, fun key hkey => ⟨hstreamed key hkey, rfl⟩, ?_⟩
  · intro σ B s n i finish htask hidle
    exact System.submissions_poll_execute htask htext hidle
  · intro σ B s n i channel htask hidle
    exact System.submissions_poll_stream htask htext hidle
  · refine forall_congr' fun key => imp_congr_right fun hkey => ?_
    rw [hstreamed key hkey]
    exact eq_comm

/-- A selection with an option for the driver. -/
def optionQuery : Query :=
  (Query.select "t").applyAll [.option "fetchAsString" (.arr [.str "Number"])]

/-- The option goes with the rows of that selection, and not with its response. -/
theorem options_of_submitted_optionQuery :
    ∃ (statement : Statement) (buffered streamed : Submission),
      ({} : Client).compileQuery optionQuery = .ok statement ∧
      (∀ (σ : Type) (B : Backend σ) (s : System σ) (n i : Nat) (finish : Option Response → Reply),
        s.tasks n = .execute i statement finish none → s.slotOf i = .idle →
          (s.poll B n).2.submissions = s.submissions ++ [(i, buffered)]) ∧
      streamed.options.get? "fetchAsString" = some (.arr [.str "Number"]) ∧
      buffered.options.get? "fetchAsString" = none := by
  have hcompile : ({} : Client).compileQuery optionQuery =
      .ok (optionQuery.statementOf (optionQuery.templateOn .folded "t")) := rfl
  obtain ⟨buffered, streamed, hbuffered, -, -, -, hoptions, -⟩ :=
    options_of_submitted hcompile (by decide +kernel)
  obtain ⟨hstreamed, hnone⟩ := hoptions "fetchAsString" (by decide)
  exact ⟨_, buffered, streamed, hcompile, hbuffered, hstreamed, hnone⟩

end SnowflakeSql

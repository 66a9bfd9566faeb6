import TableQuery.Proofs.Execution
import TableQuery.Run

/-!
# How queries end

* `notificationsOf_logged`, `notificationsOf_failureReport`: the notifications among events.
* `Ending`: the three ways in which a query on tables in memory can end; `Store.ending_run`: there
  is no other.
* `Reply.FailsWith`: a reply says what is wrong with the query.
* `Store.run_reports_once`: there is one notification, it tells whether the query failed and how,
  and a query that fails or only reads leaves the store as it was.
-/

namespace TableQuery

/-! ### Notifications among events -/

theorem notificationsOf_append (events more : List Event) :
    notificationsOf (events ++ more) = notificationsOf events ++ notificationsOf more :=
  List.filterMap_append

theorem notificationsOf_logged {α : Type} (entry : α → LogEntry) (entries : List α) :
    notificationsOf (entries.map fun a => Event.logged (entry a)) = [] := by
  simp [notificationsOf, Event.notification?]

theorem notificationsOf_successReport (title message : Text) :
    notificationsOf (successReport title message) = [⟨title, message, .info⟩] := rfl

/-- A fault goes to the log first; the notification is that of the error it is reported as. -/
theorem notificationsOf_failureReport (mode : Mode) (text : Text) (failure : Failure) :
    notificationsOf (failureReport mode text failure) =
      [⟨failure.toError.title, failure.toError.message, .error⟩] := by
  cases failure <;> rfl

/-! ### Endings -/

/-- The tables after a result is put back among them. -/
def Result.tablesAfter (result : Result) (tables : List Table) : List Table :=
  match result.table? with
  | none => tables
  | some table => replaceAll table tables

/-- How a query on tables in memory can end: it fails, a statement yields a result, or a phrase is
answered. Only a statement that yields a result can change the store. -/
inductive Ending (limit : Int) (mode : Mode) (id text : Text) (tables : List Table)
    (ids : IdSupply) (run : Run) : Prop
  | failed (failure : Failure)
      (reply : run.reply = failureReply failure)
      (store : run.store = ⟨.memory tables, ids⟩)
      (report : notificationsOf run.events =
        [⟨failure.toError.title, failure.toError.message, .error⟩])
  | executed (table : Table) (statement : Statement) (result : Result) (left : IdSupply)
      (isStatement : mode = .sql)
      (chosen : (tables.find? fun table => table.id == id) = some table)
      (parsed : Statement.parse text = .ok statement)
      (yields : statement.Yields table ids result left)
      (reply : run.reply = .outcome (.ofResult result))
      (store : run.store = ⟨.memory (result.tablesAfter tables), left⟩)
      (report : notificationsOf run.events = [⟨result.title, result.message, .info⟩])
  | answered (table : Table) (answer : Answer)
      (isPhrase : mode = .naturalLanguage)
      (chosen : (tables.find? fun table => table.id == id) = some table)
      (answers : (Plan.ofPhrase limit text table).answer table = .ok answer)
      (reply : run.reply = .outcome (.ofAnswer answer))
      (store : run.store = ⟨.memory tables, ids⟩)
      (report : notificationsOf run.events = [⟨Answer.title, answer.message, .info⟩])

theorem Ending.of_failed {limit : Int} {mode : Mode} {id text : Text} {tables : List Table}
    {ids : IdSupply} {events : List Event} (hevents : notificationsOf events = [])
    (failure : Failure) :
    Ending limit mode id text tables ids
      (.failed mode text ⟨.memory tables, ids⟩ events failure) := by
  refine .failed failure rfl rfl ?_
  rw [Run.failed, notificationsOf_append, hevents, notificationsOf_failureReport, List.nil_append]

namespace Store

variable (tables : List Table) (ids : IdSupply)

theorem choose_memory (id : Text) :
    (⟨.memory tables, ids⟩ : Store).choose id =
      (match tables.find? fun table => table.id == id with
        | none => .error (.query (.unknownTable id))
        | some table => .ok (tables, table), ⟨.memory tables, ids⟩, []) := rfl

/-- Tables in memory are put back without a failure, and nobody is notified. -/
theorem putResult_memory (result : Result) :
    ∃ events, putResult tables result ⟨.memory tables, ids⟩ =
        ⟨.ok (), ⟨.memory (result.tablesAfter tables), ids⟩, events⟩ ∧
      notificationsOf events = [] := by
  unfold putResult Result.tablesAfter
  cases result.table? with
  | none => exact ⟨[], rfl, rfl⟩
  | some updated => exact ⟨_, rfl, rfl⟩

theorem ending_runStatement (limit : Int) (id text : Text) :
    Ending limit .sql id text tables ids
      ((⟨.memory tables, ids⟩ : Store).runStatement id text) := by
  unfold runStatement
  split
  · exact .of_failed rfl _
  rw [choose_memory]
  cases hchosen : tables.find? fun table => table.id == id with
  | none => exact .of_failed rfl _
  | some table =>
    simp only
    cases hevaluate : evaluate text table ids with
    | mk evaluated remarks =>
      have hremarks : notificationsOf ([] ++ remarks.map fun remark => .logged remark.entry) = [] :=
        notificationsOf_logged Remark.entry remarks
      cases evaluated with
      | error failure => exact .of_failed hremarks failure
      | ok answer =>
        obtain ⟨result, left⟩ := answer
        obtain ⟨saving, hput, hsaving⟩ := putResult_memory tables left result
        simp only [hput]
        unfold evaluate at hevaluate
        cases hparsed : Statement.parse text with
        | error error => simp [hparsed] at hevaluate
        | ok statement =>
          simp only [hparsed, Prod.mk.injEq] at hevaluate
          have hyields := (Statement.run_eq_ok.1 hevaluate.1).2
          refine .executed table statement result left rfl hchosen hparsed hyields rfl rfl ?_
          simp only [notificationsOf_append, notificationsOf_successReport, hsaving] at hremarks ⊢
          rw [hremarks, List.nil_append, List.nil_append]

theorem ending_runPhrase (limit : Int) (id text : Text) :
    Ending limit .naturalLanguage id text tables ids
      ((⟨.memory tables, ids⟩ : Store).runPhrase limit id text) := by
  unfold runPhrase
  split
  · exact .of_failed rfl _
  rw [choose_memory]
  cases hchosen : tables.find? fun table => table.id == id with
  | none => exact .of_failed rfl _
  | some table =>
    simp only
    have hentries : notificationsOf
        ([] ++ (Plan.ofPhrase limit text table).entries.map Event.logged) = [] :=
      notificationsOf_logged (fun entry => entry) _
    cases hanswer : (Plan.ofPhrase limit text table).answer table with
    | error fault => exact .of_failed hentries (.fault fault)
    | ok answer =>
      refine .answered table answer rfl hchosen hanswer rfl rfl ?_
      simp only [notificationsOf_append, notificationsOf_successReport] at hentries ⊢
      rw [hentries, List.nil_append]

/-- Every query on tables in memory ends in one of the three ways. -/
theorem ending_run (limit : Int) (mode : Mode) (id text : Text) :
    Ending limit mode id text tables ids
      ((⟨.memory tables, ids⟩ : Store).run limit mode id text) := by
  cases mode with
  | sql => exact ending_runStatement tables ids limit id text
  | naturalLanguage => exact ending_runPhrase tables ids limit id text

end Store

/-! ### Replies -/

/-- The caller learns of an error: from the outcome, or because an unsupported statement is
raised. -/
def Reply.FailsWith (reply : Reply) (error : QueryError) : Prop :=
  (∃ outcome, reply = .outcome outcome ∧ outcome.error = some error) ∨
    reply = .raised (.query .unsupportedStatement) ∧ error = .unsupportedStatement

theorem failureReply_failsWith (failure : Failure) :
    (failureReply failure).FailsWith failure.toError := by
  unfold failureReply
  split
  · exact Or.inr ⟨rfl, rfl⟩
  · exact Or.inl ⟨_, rfl, rfl⟩

theorem Reply.success_eq_false_of_failsWith {reply : Reply} {error : QueryError}
    (h : reply.FailsWith error) : reply.success = false := by
  rcases h with ⟨outcome, rfl, herror⟩ | ⟨rfl, -⟩
  · simp [Reply.success, Outcome.success, herror]
  · rfl

/-- Every query on tables in memory is reported with one notification, and only an unsupported
statement is raised to the caller. The notification is of an error, and then of the one that the
caller learns of, just if the query does not succeed. A query that does not succeed, and one that
only reads, leaves the tables and the identifiers as they were. -/
theorem Store.run_reports_once (limit : Int) (mode : Mode) (id text : Text) (tables : List Table)
    (ids : IdSupply) :
    let store : Store := ⟨.memory tables, ids⟩
    let run := store.run limit mode id text
    ((∃ outcome, run.reply = .outcome outcome) ∨
        run.reply = .raised (.query .unsupportedStatement)) ∧
      ∃ notification, notificationsOf run.events = [notification] ∧
        (notification.severity = .error ↔ run.reply.success = false) ∧
        (run.reply.success = false → run.store = store ∧ ∃ error, run.reply.FailsWith error ∧
          notification = ⟨error.title, error.message, .error⟩) ∧
        (run.reply.success = true →
          mode = .naturalLanguage ∨ (∃ selection, Statement.parse text = .ok (.select selection)) →
          run.store = store) := by
  intro store run
  cases Store.ending_run tables ids limit mode id text with
  | failed failure reply unchanged report =>
    have hfails : run.reply.FailsWith failure.toError := by
      rw [reply]
      exact failureReply_failsWith failure
    have hsuccess := Reply.success_eq_false_of_failsWith hfails
    refine ⟨?_, _, report, ?_, ?_, ?_⟩
    · rcases hfails with ⟨outcome, houtcome, -⟩ | ⟨hraised, -⟩
      · exact Or.inl ⟨outcome, houtcome⟩
      · exact Or.inr hraised
    · simp [hsuccess]
    · exact fun _ => ⟨unchanged, _, hfails, rfl⟩
    · exact fun _ _ => unchanged
  | executed table statement result left isStatement chosen parsed yields reply changed report =>
    have hsuccess : run.reply.success = true := by
      rw [reply]
      rfl
    refine ⟨Or.inl ⟨_, reply⟩, _, report, by simp [hsuccess], by simp [hsuccess], ?_⟩
    rintro - (hphrase | ⟨selection, hselection⟩)
    · simp [isStatement] at hphrase
    · obtain rfl := Except.ok.inj (parsed.symm.trans hselection)
      obtain ⟨hrun, rfl⟩ := yields
      rw [changed, Result.tablesAfter, Selection.table?_eq_none hrun]
  | answered table answer isPhrase chosen answers reply unchanged report =>
    have hsuccess : run.reply.success = true := by
      rw [reply]
      rfl
    exact ⟨Or.inl ⟨_, reply⟩, _, report, by simp [hsuccess], by simp [hsuccess],
      fun _ _ => unchanged⟩

end TableQuery

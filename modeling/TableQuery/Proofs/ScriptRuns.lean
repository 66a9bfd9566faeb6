import TableQuery.Proofs.ShownQueries

/-!
# Scripts that stop

A script finds its table once and runs its statements on the identifier of this table, one after
the other, up to the first that fails.

* `Store.AllSucceed`: statements that succeed one after the other.
* `Store.ShowsAll`: what they show can be printed, up to the first that fails.
* `Shell.Ends`, `Shell.runQueries_ends`: all the statements succeed, or one of them is the first to
  fail or to show something that cannot be printed.
* `Shell.runScript_stops_at_first_failure`: what a script leaves.
-/

namespace TableQuery

open Text

namespace Store

/-- The store after some statements on the table with an identifier. -/
def afterTexts (store : Store) (id : Text) (texts : List Text) : Store :=
  store.after (texts.map fun text => (id, text))

/-- Statements that succeed one after the other on the table with an identifier. -/
def AllSucceed (id : Text) : List Text → Store → Prop
  | [], _ => True
  | text :: texts, store =>
    (store.runStatement id text).reply.success = true ∧
      AllSucceed id texts (store.runStatement id text).store

/-- Everything of the statements that are run one after the other is shown, up to the first that
fails. -/
def ShowsAll (shows : Text → Run → Prop) (id : Text) : List Text → Store → Prop
  | [], _ => True
  | text :: texts, store =>
    shows text (store.runStatement id text) ∧
      ((store.runStatement id text).reply.success = true →
        ShowsAll shows id texts (store.runStatement id text).store)

theorem IsSound.afterTexts {store : Store} (h : store.IsSound) (id : Text) (texts : List Text) :
    (store.afterTexts id texts).IsSound := by
  induction texts generalizing store with
  | nil => exact h
  | cons text texts ih => exact ih (h.runStatement id text)

end Store

namespace Shell

open Store

variable {verbose : Bool} {table : Table} {text : Text} {texts : List Text} {shell : Shell}

/-- How queries on the table with an identifier end: all of them succeed, or one is the first to
fail, and none after it is run; or printing something of one meets a fault. -/
inductive Ends (shows : Text → Run → Prop) (id : Text) (texts : List Text) (store : Store)
    (run : ShellRun) : Prop
  | all (succeed : AllSucceed id texts store) (shown : ShowsAll shows id texts store)
      (exit : run.exit = .code 0) (left : run.shell.store = store.afterTexts id texts)
  | stopped (front : List Text) (text : Text) (back : List Text)
      (split : texts = front ++ text :: back) (succeed : AllSucceed id front store)
      (fails : ((store.afterTexts id front).runStatement id text).reply.success = false)
      (shown : ShowsAll shows id texts store) (exit : run.exit = .code 1)
      (left : run.shell.store = ((store.afterTexts id front).runStatement id text).store)
  | escaped (fault : Fault) (front : List Text) (text : Text) (back : List Text)
      (split : texts = front ++ text :: back) (succeed : AllSucceed id front store)
      (printing : fault.IsOfPrinting)
      (hidden : ¬shows text ((store.afterTexts id front).runStatement id text))
      (cut : ¬ShowsAll shows id texts store) (exit : run.exit = .escaped fault)
      (left : run.shell.store = store.afterTexts id front ∨
        run.shell.store = store.afterTexts id (front ++ [text]))

namespace Ends

variable {shows : Text → Run → Prop} {id : Text} {store : Store} {run later : ShellRun}

theorem congr (h : Ends shows id texts store later) (hexit : run.exit = later.exit)
    (hshell : run.shell = later.shell) : Ends shows id texts store run := by
  have hleft : run.shell.store = later.shell.store := congrArg Shell.store hshell
  cases h with
  | all succeed shown exit left =>
    exact .all succeed shown (hexit.trans exit) (hleft.trans left)
  | stopped front text back split succeed fails shown exit left =>
    exact .stopped front text back split succeed fails shown (hexit.trans exit) (hleft.trans left)
  | escaped fault front text back split succeed printing hidden cut exit left =>
    exact .escaped fault front text back split succeed printing hidden cut (hexit.trans exit)
      (hleft ▸ left)

theorem cons (hshown : shows text (store.runStatement id text))
    (hsuccess : (store.runStatement id text).reply.success = true)
    (h : Ends shows id texts (store.runStatement id text).store run) :
    Ends shows id (text :: texts) store run := by
  cases h with
  | all succeed shown exit left =>
    exact .all ⟨hsuccess, succeed⟩ ⟨hshown, fun _ => shown⟩ exit left
  | stopped front failing back split succeed fails shown exit left =>
    refine .stopped (text :: front) failing back ?_ ⟨hsuccess, succeed⟩ fails
      ⟨hshown, fun _ => shown⟩ exit left
    rw [split, List.cons_append]
  | escaped fault front failing back split succeed printing hidden cut exit left =>
    refine .escaped fault (text :: front) failing back ?_ ⟨hsuccess, succeed⟩ printing hidden
      (fun h => cut (h.2 hsuccess)) exit left
    rw [split, List.cons_append]

end Ends

end Shell

end TableQuery

import RecordFormula.Expr.Task
import RecordFormula.Formula

/-!
# Engines and their callers

What an engine can be asked, alone or in a batch, and how it deals with several calls at a time:
each call is polled again and again until it has ended, and between two polls of a call others are
polled.

* `Query`, `Outcome` — a question and its answer;
* `Call` — one question, or a tree evaluated against several records;
* `Query.perform`, `Call.perform` — answering in one go;
* `Query.start`, `Task.poll`, `Call.start`, `Call.poll` — answering poll by poll;
* `Engine`, `Engine.Step` — an engine with the calls that it deals with, and what it does next.
-/

namespace RecordFormula

open Enrichment

/-! ## Questions -/

/-- A question to an engine. -/
inductive Query where
  /-- The value of a formula against a record. -/
  | formula (text : String) (record : Record)
  /-- The value of a tree against a record. -/
  | tree (tree : Expr) (record : Record)
  /-- What is known about a company. -/
  | company (name : String)
  /-- The address of a person. -/
  | email (first last domain : String)
  /-- The telephone number of a person. -/
  | phone (first last firm : String)
  /-- How promising a record is. -/
  | score (record : Json)

/-- An answer, regardless of where it comes from. -/
inductive Outcome where
  /-- The value of a formula, or why it has none. -/
  | value (r : Except FormulaError Value)
  /-- A company. -/
  | company (p : CompanyProfile)
  /-- An address. -/
  | email (s : EmailSuggestion)
  /-- A telephone number. -/
  | phone (s : PhoneSuggestion)
  /-- A score. -/
  | score (s : LeadScore)

/-- The session that answers a question. -/
def Query.perform : Query → Session Outcome
  | formula text record => Outcome.value <$> Formula.evaluate .standard text record
  | tree t record => Outcome.value <$> Formula.evaluateTree .standard t record
  | company name => Outcome.company <$> Enriched.value <$> companyInfo name
  | email first last domain => Outcome.email <$> Enriched.value <$> completeEmail first last domain
  | phone first last firm => Outcome.phone <$> Enriched.value <$> completePhone first last firm
  | score record => Outcome.score <$> Enriched.value <$> leadScore record

/-- A question between two polls. -/
inductive Query.Task where
  /-- It has its answer. -/
  | ended (o : Outcome)
  /-- A tree is being evaluated. -/
  | tree (record : Record) (t : Expr.Task)
  /-- The service waits for an answer. -/
  | service (w : Waiting Outcome)

namespace Query

/-- The question of a tree that is being evaluated. -/
def ofTask (record : Record) : Expr.Task → Task
  | .done r => .ended (.value (r.mapError .failed))
  | t => .tree record t

/-- The question of a request. -/
def ofState : Enquiry.State Outcome → Task
  | .ended o => .ended o
  | .waiting w => .service w

/-- Polls a question for the first time. -/
def start : Query → Polling Task
  | formula text record =>
    match Expr.ofText text with
    | .error e => return .ended (.value (.error (.unreadable e)))
    | .ok t => ofTask record <$> t.start record
  | tree t record => ofTask record <$> t.start record
  | company name => ofState <$> ((companyEnquiry name).map Outcome.company).start
  | email first last domain =>
    ofState <$> ((emailEnquiry first last domain).map Outcome.email).start
  | phone first last firm => ofState <$> ((phoneEnquiry first last firm).map Outcome.phone).start
  | score record => ofState <$> ((scoreEnquiry record).map Outcome.score).start

/-- Polls a question again. -/
def Task.poll : Task → Polling Task
  | ended o => return ended o
  | tree record t => ofTask record <$> t.poll record
  | service w => ofState <$> w.poll

/-- The requests whose answers a question waits for. -/
def Task.pending : Task → List Request
  | ended _ => []
  | tree _ t => t.pending
  | service w => [w.request]

end Query

/-! ## Calls -/

/-- A call of an engine. -/
inductive Call where
  /-- A question. -/
  | single (q : Query)
  /-- The values of a tree against several records. -/
  | batch (tree : Expr) (records : List Record)

namespace Call

/-- The questions of a call. -/
def queries : Call → List Query
  | single q => [q]
  | batch t records => records.map (.tree t)

/-- The session that a call is, with the answers to its questions. -/
def perform : Call → Session (List Outcome)
  | single q => (fun o => [o]) <$> q.perform
  | batch t records => List.map Outcome.value <$> Formula.evaluateTreeEach .standard t records

/-- Polls a call for the first time: its questions from the first to the last. -/
def start (call : Call) : Polling (List Query.Task) := call.queries.mapM Query.start

/-- Polls a call again. -/
def poll (tasks : List Query.Task) : Polling (List Query.Task) := tasks.mapM Query.Task.poll

end Call

/-! ## Engines -/

/-- A call that an engine deals with. -/
structure Job where
  /-- The call. -/
  call : Call
  /-- Its questions. -/
  tasks : List Query.Task
  /-- What has happened on its behalf, the latest first. -/
  events : List Event

/-- An engine with the calls that it deals with, those that have ended included. -/
structure Engine where
  /-- What is left behind. -/
  store : Store
  /-- What has happened, the latest first. -/
  events : List Event
  /-- The calls. -/
  jobs : List Job

namespace Engine

/-- An engine before its first call. -/
def initial (capacity : Nat) : Engine := ⟨Store.initial capacity, [], []⟩

/-- The engine after a poll on behalf of a call, which stands between the others. -/
def after (g : Engine) (before after : List Job) (call : Call) (events : List Event)
    (poll : List Query.Task × Course) : Engine where
  store := poll.2.store
  events := poll.2.events ++ g.events
  jobs := before ++ ⟨call, poll.1, poll.2.events ++ events⟩ :: after

/-- What an engine can do next. -/
inductive Step (env : Environment) (g : Engine) : Engine → Prop
  /-- It takes a call and polls it for the first time. -/
  | take (c : Circumstances) (hc : c.env = env) (call : Call) :
    Step env g (g.after [] g.jobs call [] (call.start c ⟨g.store, []⟩))
  /-- It polls one of its calls again. -/
  | poll (c : Circumstances) (hc : c.env = env) {before after : List Job} {job : Job}
      (hjobs : g.jobs = before ++ job :: after) :
    Step env g (g.after before after job.call job.events (Call.poll job.tasks c ⟨g.store, []⟩))
  /-- A caller goes away. -/
  | cancel {before after : List Job} {job : Job} (hjobs : g.jobs = before ++ job :: after) :
    Step env g
      ⟨g.store, (job.tasks.flatMap Query.Task.pending).map .dropped ++ g.events, before ++ after⟩

/-- What an engine can have come to. -/
inductive Reachable (env : Environment) (capacity : Nat) : Engine → Prop
  /-- Nothing has happened yet. -/
  | initial : Reachable env capacity (initial capacity)
  /-- It has done something. -/
  | step {g g' : Engine} (h : Reachable env capacity g) (hstep : Step env g g') :
    Reachable env capacity g'

end Engine

end RecordFormula

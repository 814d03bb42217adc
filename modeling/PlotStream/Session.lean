import PlotStream.Log
import PlotStream.Parser

/-!
A session: one parser and one log, used for one request after another. What a request changes is
what the next one finds: the level of the log, the operation code read last, the alarm of the
listener, and the commands recorded so far.
-/

namespace PlotStream

structure Session where
  parser : Parser := {}
  logger : Logger := {}
  /-- Every command decoded so far, with its place. -/
  recorded : List (Command × Location) := []

namespace Session

inductive Request where
  | setLevel (name : String)
  | log (record : Log.Record)
  | parse (input : Input) (options : Options)
  deriving Repr

inductive Reply where
  /-- The level was set, unless its name is unknown. -/
  | level (unknown : Option Logger.UnknownLevel)
  | logged
  | parsed (report : Report)

def Reply.commands : Reply → List (Command × Location)
  | .level _ => []
  | .logged => []
  | .parsed report => Notice.commands report.trace

/-- A request carried out: the session afterwards, the reply, and the records that got through. -/
structure Step where
  session : Session
  reply : Reply
  records : List Log.Record

variable [Encoding.Registry]

def step (session : Session) : Request → Step
  | .setLevel name =>
    let (logger, unknown) := session.logger.setLevel name
    ⟨{ session with logger }, .level unknown, []⟩
  | .log record => ⟨session, .logged, session.logger.emit [record]⟩
  | .parse input options =>
    let report := session.parser.parse input options
    { session :=
        { session with
          parser := report.parser
          recorded := session.recorded ++ Notice.commands report.trace }
      reply := .parsed report
      records := session.logger.write {} report.trace }

/-- Carry out requests in order. -/
def steps (session : Session) : List Request → List Step
  | [] => []
  | request :: rest =>
    let done := session.step request
    done :: done.session.steps rest

/-- The session after requests in order. -/
def after (session : Session) (requests : List Request) : Session :=
  requests.foldl (fun s request => (s.step request).session) session

end Session

end PlotStream

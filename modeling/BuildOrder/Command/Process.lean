import BuildOrder.Command.Help
import BuildOrder.Command.Report
import BuildOrder.Log.Logger

/-!
# The program as a process

What a run leaves behind: its exit code and what it wrote to its two streams. Log lines come before everything
else on their stream. Nothing is logged before the run has started, because only then the settings of the logger
are known. What is said about arguments is a parameter of the run.
-/

namespace BuildOrder

structure Outcome where
  code : UInt32
  output : ByteArray
  errors : String

namespace Outcome

/-- An error, said as a chain of texts. -/
def failure (chain : List String) : Outcome := ⟨1, .empty, report chain⟩

/-- Arguments that ask for a text, or make no sense. -/
def ofUsage (texts : UsageTexts) (i : Invocation) : Usage → Outcome
  | .help scope => ⟨0, (texts.help i scope).toUTF8, ""⟩
  | .version scope => ⟨0, (versionText scope).toUTF8, ""⟩
  | u => ⟨2, .empty, texts.complaint i u⟩

def ofStartError (texts : UsageTexts) (i : Invocation) : StartError → Outcome
  | .envFile e => failure e.chain
  | .usage u => ofUsage texts i u
  | .settings e => failure e.chain

/-- Put log lines before what was written to a stream. -/
def withLog (log : LogStream × String) (o : Outcome) : Outcome :=
  match log with
  | (.stdout, text) => { o with output := text.toUTF8 ++ o.output }
  | (.stderr, text) => { o with errors := text ++ o.errors }

end Outcome

namespace Invocation

/-- Carry out a task with a logger; log lines bear the given time. -/
def finish (i : Invocation) (time : String) (task : Task) : Outcome :=
  let logger := Logger.ofSettings task.settings.logger task.environment
  let ⟨(sink, result), events⟩ := i.carryOut task (.empty none)
  let outcome : Outcome := match result with
    | .ok () => ⟨0, sink.written, ""⟩
    | .error e => { Outcome.failure e.chain with output := sink.written }
  outcome.withLog ((Receiver.logger logger).render time (logger.started :: events))

/-- Run the program with given texts about arguments; log lines bear the given time. -/
def runWith (i : Invocation) (texts : UsageTexts) (time : String) : Outcome :=
  match i.start.value with
  | .ok task => i.finish time task
  | .error e => .ofStartError texts i e

def run (i : Invocation) (time : String) : Outcome := i.runWith .plain time

end Invocation

end BuildOrder

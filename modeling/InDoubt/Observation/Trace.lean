import InDoubt.Observation.Span
import InDoubt.Settings.Basic

namespace InDoubt

/-- A span to run: attributes given all at once at its start and one by one later, spans inside it,
and the fault it then raises, if any. A caught span keeps its fault from the span around it. -/
inductive SpanPlan where
  | mk (name : String) (attributes : Except Fault Value)
      (later : List (String × Except Fault Value)) (children : List SpanPlan) (caught : Bool)
      (failure : Option Fault)

namespace SpanPlan

def caught : SpanPlan → Bool
  | .mk _ _ _ _ caught _ => caught

def opened (span : Span) (attributes : Value) (later : List (String × Except Fault Value)) :
    Span × Option Fault :=
  match span.setAll attributes with
  | (started, none) => started.setEach later
  | (started, some fault) => (started, some fault)

mutual

/-- Runs a span inside another: the spans that ended, and the fault that leaves it. A span whose
first attributes cannot be made never starts, and one that cannot take its attributes fails before
anything runs inside it. -/
def run (parent : Option String) : SpanPlan → List Span × Option Fault
  | .mk _ (.error fault) _ _ _ _ => ([], some fault)
  | .mk name (.ok attributes) later children _ failure =>
      let (span, stopped) := opened (Span.start name parent) attributes later
      let (ended, inner) :=
        match stopped with
        | some fault => ([], some fault)
        | none => runAll name children
      match inner.or failure with
      | none => (ended ++ [span], none)
      | some fault =>
          let (closed, leaving) := span.endWith fault
          (ended ++ [closed], some leaving)

def runAll (parent : String) : List SpanPlan → List Span × Option Fault
  | [] => ([], none)
  | child :: rest =>
      let (ended, fault) := run (some parent) child
      if fault.isNone || child.caught then
        let (more, leaving) := runAll parent rest
        (ended ++ more, leaving)
      else (ended, fault)

end

end SpanPlan

namespace Tracing

def tracerName : String := "xa_xid"

def version : String := "0.1.0"

def endpoint? (settings : ObservabilitySettings) : Option Settings.GivenText :=
  settings.otelEndpoint.filter fun endpoint => !endpoint.isEmpty

def unnamedService : Settings.GivenText := .whole "unknown_service:python3"

def serviceName (settings : ObservabilitySettings) : Settings.GivenText :=
  if settings.otelServiceName.isEmpty then unnamedService else settings.otelServiceName

end Tracing

end InDoubt

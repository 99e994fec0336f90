import WafWatch.Live.Message

/-!
This module contains the writing side of a session: a machine that makes one call of the transport at a
time. It sends the messages of the queue in order, a ping now and then, and a closing frame after the last
message of a queue that has ended. After a call that failed, and after the closing frame, it makes no
calls any more.
-/

namespace WafWatch

/--
A call of the transport.
-/
inductive SinkCall where
  | message (envelope : Envelope)
  | ping
  | close
  deriving DecidableEq, Repr, Inhabited

/--
What the writer is doing.
-/
inductive Writer where
  /-- It waits for something to send. -/
  | idle
  /-- It waits for a call to end. -/
  | busy (call : SinkCall)
  | done
  deriving DecidableEq, Repr, Inhabited

/--
What the writer takes notice of.
-/
inductive WriterEvent where
  /-- A message comes from the queue. -/
  | message (envelope : Envelope)
  /-- The queue is empty and nothing will be put on it any more. -/
  | queueEnded
  | pingDue
  | cancelled
  /-- The call that was made succeeded or failed. -/
  | callEnded (succeeded : Bool)
  deriving DecidableEq, Repr, Inhabited

namespace Writer

/--
What the writer does next. While a call goes on, nothing but its end is taken notice of.
-/
def step : Writer → WriterEvent → Writer
  | .idle, .message envelope => .busy (.message envelope)
  | .idle, .queueEnded => .busy .close
  | .idle, .pingDue => .busy .ping
  | .idle, .cancelled => .done
  | .busy .close, .callEnded _ => .done
  | .busy _, .callEnded true => .idle
  | .busy _, .callEnded false => .done
  | writer, _ => writer

def begun? (writer : Writer) (event : WriterEvent) : Option SinkCall :=
  match writer, writer.step event with
  | .idle, .busy call => some call
  | _, _ => none

end Writer

end WafWatch

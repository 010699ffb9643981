import DrpcClient.Drcpclient
import DrpcClient.Drcpclientconn
/-!
# Entry and exit order

The ordering law of an interceptor chain: when each interceptor records an event,
calls its continuation once with the arguments it was given, records a second
event and returns what the continuation returned, a call records the first events
in registration order, then whatever the terminal records, then the second events
in reverse, and returns the terminal's result unchanged, success or failure.

Calls act on an event log: `traced D ε` is `D` with every result a state
computation over a `List ε`. The law is stated once for `nest`, the brackets of
a list of event pairs around a computation; each package's composed call over
recording interceptors is such a nest, and each connection built from recording
interceptors runs it.
-/

namespace DrpcClient

/-- `D` with calls that act on an event log. -/
def traced (D : Drpc) (ε : Type) : Drpc :=
  { D with Result := StateM (List ε) D.Result
           StreamResult := StateM (List ε) D.StreamResult }

namespace Ordering

variable {ε β : Type}

/-- `inner` between the events `before` and `after`. -/
def bracket (before after : ε) (inner : StateM (List ε) β) : StateM (List ε) β := do
  modify (· ++ [before])
  let result ← inner
  modify (· ++ [after])
  pure result

/-- `inner` inside one bracket per pair, the first pair outermost. -/
def nest (pairs : List (ε × ε)) (inner : StateM (List ε) β) : StateM (List ε) β :=
  pairs.foldr (fun p m => bracket p.1 p.2 m) inner

theorem bracket_run (before after : ε) (inner : StateM (List ε) β) (log : List ε) :
    (bracket before after inner).run log =
      ((inner.run (log ++ [before])).1, (inner.run (log ++ [before])).2 ++ [after]) := by
  simp [bracket]

theorem nest_run (pairs : List (ε × ε)) (inner : StateM (List ε) β) (log : List ε) :
    (nest pairs inner).run log =
      ((inner.run (log ++ pairs.map Prod.fst)).1,
        (inner.run (log ++ pairs.map Prod.fst)).2 ++ (pairs.map Prod.snd).reverse) := by
  induction pairs generalizing log with
  | nil => simp [nest]
  | cons p pairs ih =>
    rw [nest, List.foldr_cons, bracket_run, ← nest, ih]
    simp

/-- A connection whose calls record `"invoke"` and `"newStream"`. -/
def loggingConn : Conn (traced unitDrpc String) :=
  ⟨fun _ _ _ _ _ => do modify (· ++ ["invoke"]); pure (0 : Nat),
    fun _ _ _ => do modify (· ++ ["newStream"]); pure (0 : Nat)⟩

/-- A dialer, or a connection supplier, that always returns `loggingConn`. -/
def loggingDialer : Unit → Except Unit (Conn (traced unitDrpc String)) :=
  fun _ => .ok loggingConn

/-- Interceptors `A` then `B`, each recording around `next`, as the interceptors of
the packages' tests do. -/
def scenarioPairs : List (String × String) := [("A-before", "A-after"), ("B-before", "B-after")]

end Ordering
end DrpcClient

namespace DrpcClient.Drcpclient

open Ordering

variable {D : Drpc} {ε : Type}

/-- An interceptor that records `before`, calls `next` with the arguments it was
given, records `after` and returns what `next` returned. -/
def recordingUnary (before after : ε) : UnaryClientInterceptor (traced D ε) :=
  fun ctx rpc enc inp out _ next => bracket before after (next ctx rpc enc inp out)

theorem composeUnary_recording (cc : Conn (traced D ε))
    (terminal : UnaryInvoker (traced D ε)) (pairs : List (ε × ε)) (ctx : D.Context)
    (rpc : String) (enc : D.Encoding) (inp out : D.Message) :
    composeUnary cc terminal (pairs.map fun p => recordingUnary p.1 p.2) ctx rpc enc inp out =
      nest pairs (terminal ctx rpc enc inp out) := by
  induction pairs with
  | nil => rfl
  | cons p pairs ih => exact congrArg (bracket p.1 p.2) ih

/-- **A call through recording unary interceptors records the first events in
registration order, then the terminal's events, then the second events in
reverse, and returns the terminal's result.** -/
theorem invoke_run_nests_records {E : Type}
    (asConn : ClientConn (traced D ε) → Conn (traced D ε)) (pairs : List (ε × ε))
    (opts : List (OptionCall (UnaryClientInterceptor (traced D ε))
      (StreamClientInterceptor (traced D ε))))
    (hU : unaryArgs opts = pairs.map fun p => recordingUnary p.1 p.2)
    {ctx : (traced D ε).Context} {dialer : (traced D ε).Context → Except E (Conn (traced D ε))}
    {conn0 : Conn (traced D ε)} {c : ClientConn (traced D ε)}
    (hdial : dialer ctx = .ok conn0)
    (hc : newClientConnWithOptions ctx dialer (opts.map dialOption) = .ok c)
    (ctx' : D.Context) (rpc : String) (enc : D.Encoding) (inp out : D.Message)
    (log : List ε) :
    (c.invoke asConn ctx' rpc enc inp out).map (fun call => StateT.run call log) =
      .ok ((StateT.run (conn0.invoke ctx' rpc enc inp out) (log ++ pairs.map Prod.fst)).1,
        (StateT.run (conn0.invoke ctx' rpc enc inp out) (log ++ pairs.map Prod.fst)).2 ++
          (pairs.map Prod.snd).reverse) := by
  obtain rfl := eq_of_newClientConnWithOptions hdial hc
  rw [newDialOptions_dialOption, invoke_of_chained]
  simp only [Except.map, hU, composeUnary_recording, nest_run]

def scenarioOpts : List (OptionCall (UnaryClientInterceptor (traced unitDrpc String))
    (StreamClientInterceptor (traced unitDrpc String))) :=
  [.unary (scenarioPairs.map fun p => recordingUnary p.1 p.2)]

def scenarioClient : ClientConn (traced unitDrpc String) :=
  ⟨loggingConn, newDialOptions (scenarioOpts.map dialOption)⟩

theorem invoke_run_nests_records_scenario :
    unaryArgs scenarioOpts = scenarioPairs.map (fun p => recordingUnary p.1 p.2) ∧
      loggingDialer () = .ok loggingConn ∧
      newClientConnWithOptions () loggingDialer (scenarioOpts.map dialOption) =
        .ok scenarioClient ∧
      (scenarioClient.invoke ClientConn.conn () "Method" () () ()).map
          (fun call => StateT.run call []) =
        .ok ((StateT.run (loggingConn.invoke () "Method" () () ())
            ([] ++ scenarioPairs.map Prod.fst)).1,
          (StateT.run (loggingConn.invoke () "Method" () () ())
            ([] ++ scenarioPairs.map Prod.fst)).2 ++ (scenarioPairs.map Prod.snd).reverse) :=
  ⟨rfl, rfl, rfl, @invoke_run_nests_records unitDrpc String Unit ClientConn.conn scenarioPairs
    scenarioOpts rfl () loggingDialer loggingConn scenarioClient rfl rfl () "Method" () () () []⟩

example : (scenarioClient.invoke ClientConn.conn () "Method" () () ()).map
    (fun call => StateT.run call []) =
      .ok ((0 : Nat), ["A-before", "B-before", "invoke", "B-after", "A-after"]) := rfl

end DrpcClient.Drcpclient

namespace DrpcClient.Drpcinterceptors

open Ordering

variable {D : Drpc} {ε : Type}

/-- A unary interceptor that records `before`, calls `next` with the arguments it
was given, records `after` and returns what `next` returned. -/
def recordingUnary (before after : ε) : UnaryClientInterceptor (traced D ε) :=
  fun ctx method inp out _ enc next => bracket before after (next ctx method inp out enc)

/-- A stream interceptor that records `before`, opens the stream through `next`
with the context and method it was given, records `after` and returns the result. -/
def recordingStream (before after : ε) : StreamClientInterceptor (traced D ε) :=
  fun ctx method _ next => bracket before after (next ctx method)

theorem composeUnary_recording (cc : Conn (traced D ε))
    (terminal : UnaryInvoker (traced D ε)) (pairs : List (ε × ε)) (ctx : D.Context)
    (method : String) (inp out : D.Message) (enc : D.Encoding) :
    composeUnary cc terminal (pairs.map fun p => recordingUnary p.1 p.2) ctx method inp out
        enc =
      nest pairs (terminal ctx method inp out enc) := by
  induction pairs with
  | nil => rfl
  | cons p pairs ih => exact congrArg (bracket p.1 p.2) ih

theorem composeStream_recording (cc : Conn (traced D ε))
    (terminal : Streamer (traced D ε)) (pairs : List (ε × ε)) (ctx : D.Context)
    (method : String) :
    composeStream cc terminal (pairs.map fun p => recordingStream p.1 p.2) ctx method =
      nest pairs (terminal ctx method) := by
  induction pairs with
  | nil => rfl
  | cons p pairs ih => exact congrArg (bracket p.1 p.2) ih

end DrpcClient.Drpcinterceptors

namespace DrpcClient.Drcpclientconn

open Ordering Drpcinterceptors

variable {D : Drpc} {ε : Type}

/-- **`Invoke` through recording unary interceptors records the first events in
registration order, then the terminal's events, then the second events in
reverse, and returns the terminal's result.** -/
theorem invoke_run_nests_records_of_options {E : Type}
    (asConn : ClientConn (traced D ε) → Conn (traced D ε)) (pairs : List (ε × ε))
    (opts : List (OptionCall (UnaryClientInterceptor (traced D ε))
      (StreamClientInterceptor (traced D ε))))
    (hU : unaryArgs opts = pairs.map fun p => recordingUnary p.1 p.2)
    {connSupplier : Unit → Except E (Conn (traced D ε))} {conn0 : Conn (traced D ε)}
    {c : ClientConn (traced D ε)} (hsupply : connSupplier () = .ok conn0)
    (hc : newClientConnWithOptions (newDialOptions (opts.map dialOption)) connSupplier =
      .ok c)
    (ctx : (traced D ε).Context) (rpc : String) (enc : D.Encoding) (inp out : D.Message)
    (log : List ε) :
    (c.invoke asConn ctx rpc enc inp out).map (fun call => StateT.run call log) =
      .ok ((StateT.run (conn0.invoke ctx rpc enc inp out) (log ++ pairs.map Prod.fst)).1,
        (StateT.run (conn0.invoke ctx rpc enc inp out) (log ++ pairs.map Prod.fst)).2 ++
          (pairs.map Prod.snd).reverse) := by
  obtain rfl := eq_of_newClientConnWithOptions hsupply hc
  rw [invoke_initInterceptors, newDialOptions_dialOption]
  simp only [Except.map, hU, composeUnary_recording, nest_run]

/-- **`NewStream` through recording stream interceptors records the first events in
registration order, then the terminal's events, then the second events in
reverse, and returns the terminal's result.** -/
theorem newStream_run_nests_records_of_options {E : Type}
    (asConn : ClientConn (traced D ε) → Conn (traced D ε)) (pairs : List (ε × ε))
    (opts : List (OptionCall (UnaryClientInterceptor (traced D ε))
      (StreamClientInterceptor (traced D ε))))
    (hS : streamArgs opts = pairs.map fun p => recordingStream p.1 p.2)
    {connSupplier : Unit → Except E (Conn (traced D ε))} {conn0 : Conn (traced D ε)}
    {c : ClientConn (traced D ε)} (hsupply : connSupplier () = .ok conn0)
    (hc : newClientConnWithOptions (newDialOptions (opts.map dialOption)) connSupplier =
      .ok c)
    (ctx : (traced D ε).Context) (rpc : String) (enc : D.Encoding) (log : List ε) :
    (c.newStream asConn ctx rpc enc).map (fun call => StateT.run call log) =
      .ok ((StateT.run (conn0.newStream ctx rpc enc) (log ++ pairs.map Prod.fst)).1,
        (StateT.run (conn0.newStream ctx rpc enc) (log ++ pairs.map Prod.fst)).2 ++
          (pairs.map Prod.snd).reverse) := by
  obtain rfl := eq_of_newClientConnWithOptions hsupply hc
  rw [newStream_initInterceptors, newDialOptions_dialOption]
  simp only [Except.map, hS, composeStream_recording, nest_run]

def scenarioOpts : List (OptionCall (UnaryClientInterceptor (traced unitDrpc String))
    (StreamClientInterceptor (traced unitDrpc String))) :=
  [.unary (scenarioPairs.map fun p => recordingUnary p.1 p.2),
    .stream (scenarioPairs.map fun p => recordingStream p.1 p.2)]

def scenarioClient : ClientConn (traced unitDrpc String) :=
  ClientConn.initInterceptors ⟨loggingConn, newDialOptions (scenarioOpts.map dialOption)⟩

theorem invoke_run_nests_records_of_options_scenario :
    unaryArgs scenarioOpts = scenarioPairs.map (fun p => recordingUnary p.1 p.2) ∧
      loggingDialer () = .ok loggingConn ∧
      newClientConnWithOptions (newDialOptions (scenarioOpts.map dialOption)) loggingDialer =
        .ok scenarioClient ∧
      (scenarioClient.invoke ClientConn.conn () "Method" () () ()).map
          (fun call => StateT.run call []) =
        .ok ((StateT.run (loggingConn.invoke () "Method" () () ())
            ([] ++ scenarioPairs.map Prod.fst)).1,
          (StateT.run (loggingConn.invoke () "Method" () () ())
            ([] ++ scenarioPairs.map Prod.fst)).2 ++ (scenarioPairs.map Prod.snd).reverse) :=
  ⟨rfl, rfl, rfl, @invoke_run_nests_records_of_options unitDrpc String Unit ClientConn.conn
    scenarioPairs scenarioOpts rfl loggingDialer loggingConn scenarioClient rfl rfl
    () "Method" () () () []⟩

theorem newStream_run_nests_records_of_options_scenario :
    streamArgs scenarioOpts = scenarioPairs.map (fun p => recordingStream p.1 p.2) ∧
      loggingDialer () = .ok loggingConn ∧
      newClientConnWithOptions (newDialOptions (scenarioOpts.map dialOption)) loggingDialer =
        .ok scenarioClient ∧
      (scenarioClient.newStream ClientConn.conn () "Method" ()).map
          (fun call => StateT.run call []) =
        .ok ((StateT.run (loggingConn.newStream () "Method" ())
            ([] ++ scenarioPairs.map Prod.fst)).1,
          (StateT.run (loggingConn.newStream () "Method" ())
            ([] ++ scenarioPairs.map Prod.fst)).2 ++ (scenarioPairs.map Prod.snd).reverse) :=
  ⟨rfl, rfl, rfl, @newStream_run_nests_records_of_options unitDrpc String Unit ClientConn.conn
    scenarioPairs scenarioOpts rfl loggingDialer loggingConn scenarioClient rfl rfl
    () "Method" () []⟩

example : (scenarioClient.newStream ClientConn.conn () "Method" ()).map
    (fun call => StateT.run call []) =
      .ok ((0 : Nat), ["A-before", "B-before", "newStream", "B-after", "A-after"]) := rfl

end DrpcClient.Drcpclientconn

import DrpcClient.Drpcinterceptors
/-!
# Package `drcpclientconn`

The wrapper over `drpcinterceptors`. It takes the options by value, chains
them on its own copy once the connection is supplied, and on each call passes
the chained interceptor a terminal that restores the argument order of
`drpc.Conn`. The terminal of `NewStream` keeps the caller's encoding, which a
stream interceptor cannot replace.

The main results say that for any sequence of options both calls are the right
fold of the registered interceptors over that terminal, for every number of
interceptors, so that the shortcuts for none and for one agree with the loop.
-/

namespace DrpcClient.Drcpclientconn

open Drpcinterceptors

variable {D : Drpc}

/-- `ClientConn`: the embedded `drpc.Conn` and its own copy of the options. -/
structure ClientConn (D : Drpc) where
  conn : Conn D
  dopts : DialOptions D

/-- `(*ClientConn).initInterceptors`, which chains the copy in place. -/
def ClientConn.initInterceptors (c : ClientConn D) : ClientConn D :=
  { c with dopts := c.dopts.chainUnaryClientInterceptors.chainStreamClientInterceptors }

/-- `NewClientConnWithOptions`; the supplier's `(conn, err)` is an `Except`. -/
def newClientConnWithOptions {E : Type} (dopts : DialOptions D)
    (connSupplier : Unit → Except E (Conn D)) : Except E (ClientConn D) := do
  let conn ← connSupplier ()
  let clientConn : ClientConn D := { conn := conn, dopts := dopts }
  pure clientConn.initInterceptors

variable (asConn : ClientConn D → Conn D)

/-- `(ClientConn).Invoke`. -/
def ClientConn.invoke (c : ClientConn D) (ctx : D.Context) (rpc : String)
    (enc : D.Encoding) (inp out : D.Message) : Except Panic D.Result :=
  let next : UnaryInvoker D := fun ctx rpc inp out enc => c.conn.invoke ctx rpc enc inp out
  match c.dopts.unaryInt with
  | some unaryInt => unaryInt ctx rpc inp out (asConn c) enc next
  | none => .ok (next ctx rpc inp out enc)

/-- `(ClientConn).NewStream`. -/
def ClientConn.newStream (c : ClientConn D) (ctx : D.Context) (rpc : String)
    (enc : D.Encoding) : Except Panic D.StreamResult :=
  let next : Streamer D := fun ctx rpc => c.conn.newStream ctx rpc enc
  match c.dopts.streamInt with
  | some streamInt => streamInt ctx rpc (asConn c) next
  | none => .ok (next ctx rpc)

/-! ## Construction -/

theorem newClientConnWithOptions_eq {E : Type} (dopts : DialOptions D)
    (connSupplier : Unit → Except E (Conn D)) :
    newClientConnWithOptions dopts connSupplier =
      (connSupplier ()).map fun conn => ClientConn.initInterceptors ⟨conn, dopts⟩ := by
  unfold newClientConnWithOptions
  cases connSupplier () <;> rfl

theorem eq_of_newClientConnWithOptions {E : Type} {dopts : DialOptions D}
    {connSupplier : Unit → Except E (Conn D)} {conn0 : Conn D} {c : ClientConn D}
    (hsupply : connSupplier () = .ok conn0)
    (hc : newClientConnWithOptions dopts connSupplier = .ok c) :
    c = ClientConn.initInterceptors ⟨conn0, dopts⟩ := by
  rw [newClientConnWithOptions_eq, hsupply] at hc
  exact (Except.ok.inj hc).symm

/-! ## Calls through chained options -/

theorem invoke_initInterceptors (conn : Conn D) (dopts : DialOptions D)
    (ctx : D.Context) (rpc : String) (enc : D.Encoding) (inp out : D.Message) :
    (ClientConn.initInterceptors ⟨conn, dopts⟩).invoke asConn ctx rpc enc inp out =
      .ok (composeUnary (asConn (ClientConn.initInterceptors ⟨conn, dopts⟩))
        (fun ctx rpc inp out enc => conn.invoke ctx rpc enc inp out) dopts.unaryInts
        ctx rpc inp out enc) := by
  exact unaryInt_call dopts _ _ ctx rpc inp out enc

theorem newStream_initInterceptors (conn : Conn D) (dopts : DialOptions D)
    (ctx : D.Context) (rpc : String) (enc : D.Encoding) :
    (ClientConn.initInterceptors ⟨conn, dopts⟩).newStream asConn ctx rpc enc =
      .ok (composeStream (asConn (ClientConn.initInterceptors ⟨conn, dopts⟩))
        (fun ctx method => conn.newStream ctx method enc) dopts.streamInts ctx rpc) := by
  exact streamInt_call dopts.chainUnaryClientInterceptors _ _ ctx rpc

/-! ## Calls on a connection built from options

`U` is every argument of the `WithChainUnaryInterceptor` options in order, and `S`
every argument of the `WithChainStreamInterceptor` ones. -/

/-- **`Invoke` is the right fold of the unary interceptors over the supplied
connection, for every number of them.** -/
theorem invoke_eq_composeUnary_of_options {E : Type}
    (opts : List (OptionCall (UnaryClientInterceptor D) (StreamClientInterceptor D)))
    {connSupplier : Unit → Except E (Conn D)} {conn0 : Conn D} {c : ClientConn D}
    (hsupply : connSupplier () = .ok conn0)
    (hc : newClientConnWithOptions (newDialOptions (opts.map dialOption)) connSupplier =
      .ok c)
    (ctx : D.Context) (rpc : String) (enc : D.Encoding) (inp out : D.Message) :
    c.invoke asConn ctx rpc enc inp out =
      .ok (composeUnary (asConn c)
        (fun ctx' rpc' inp' out' enc' => conn0.invoke ctx' rpc' enc' inp' out')
        (unaryArgs opts) ctx rpc inp out enc) := by
  obtain rfl := eq_of_newClientConnWithOptions hsupply hc
  rw [invoke_initInterceptors, newDialOptions_dialOption]

/-- **`NewStream` is the right fold of the stream interceptors over the supplied
connection with the caller's encoding, for every number of them.** -/
theorem newStream_eq_composeStream_of_options {E : Type}
    (opts : List (OptionCall (UnaryClientInterceptor D) (StreamClientInterceptor D)))
    {connSupplier : Unit → Except E (Conn D)} {conn0 : Conn D} {c : ClientConn D}
    (hsupply : connSupplier () = .ok conn0)
    (hc : newClientConnWithOptions (newDialOptions (opts.map dialOption)) connSupplier =
      .ok c)
    (ctx : D.Context) (rpc : String) (enc : D.Encoding) :
    c.newStream asConn ctx rpc enc =
      .ok (composeStream (asConn c) (fun ctx' method' => conn0.newStream ctx' method' enc)
        (streamArgs opts) ctx rpc) := by
  obtain rfl := eq_of_newClientConnWithOptions hsupply hc
  rw [newStream_initInterceptors, newDialOptions_dialOption]

/-- Two unary and two stream interceptors, each passing the call on. -/
def forwardOpts : List (OptionCall (UnaryClientInterceptor unitDrpc)
    (StreamClientInterceptor unitDrpc)) :=
  [.unary [fun ctx rpc inp out _ enc next => next ctx rpc inp out enc],
    .stream [fun ctx method _ next => next ctx method],
    .unary [fun ctx rpc inp out _ enc next => next ctx rpc inp out enc],
    .stream [fun ctx method _ next => next ctx method]]

/-- The connection `forwardOpts` builds over `zeroConn`. -/
def forwardClient : ClientConn unitDrpc :=
  ClientConn.initInterceptors ⟨zeroConn, newDialOptions (forwardOpts.map dialOption)⟩

theorem invoke_eq_composeUnary_of_options_forward :
    zeroDialer () = .ok zeroConn ∧
      newClientConnWithOptions (newDialOptions (forwardOpts.map dialOption)) zeroDialer =
        .ok forwardClient ∧
      forwardClient.invoke ClientConn.conn () "Method" () () () =
        .ok (composeUnary (ClientConn.conn forwardClient)
          (fun ctx' rpc' inp' out' enc' => zeroConn.invoke ctx' rpc' enc' inp' out')
          (unaryArgs forwardOpts) () "Method" () () ()) :=
  ⟨rfl, rfl, @invoke_eq_composeUnary_of_options unitDrpc ClientConn.conn Unit forwardOpts
    zeroDialer zeroConn forwardClient rfl rfl () "Method" () () ()⟩

theorem newStream_eq_composeStream_of_options_forward :
    zeroDialer () = .ok zeroConn ∧
      newClientConnWithOptions (newDialOptions (forwardOpts.map dialOption)) zeroDialer =
        .ok forwardClient ∧
      forwardClient.newStream ClientConn.conn () "Method" () =
        .ok (composeStream (ClientConn.conn forwardClient)
          (fun ctx' method' => zeroConn.newStream ctx' method' ())
          (streamArgs forwardOpts) () "Method") :=
  ⟨rfl, rfl, @newStream_eq_composeStream_of_options unitDrpc ClientConn.conn Unit forwardOpts
    zeroDialer zeroConn forwardClient rfl rfl () "Method" ()⟩

/-! ## Options chained in advance

`UnaryInt` and `StreamInt` are exported, so the options handed to
`NewClientConnWithOptions` may already hold chained interceptors: set by hand, or
left by a call of the chaining functions, as in the example of the
`ChainUnaryClientInterceptors` documentation. -/

theorem invoke_of_newClientConnWithOptions {E : Type} {dopts : DialOptions D}
    {connSupplier : Unit → Except E (Conn D)} {conn0 : Conn D} {c : ClientConn D}
    (hsupply : connSupplier () = .ok conn0)
    (hc : newClientConnWithOptions dopts connSupplier = .ok c)
    (ctx : D.Context) (rpc : String) (enc : D.Encoding) (inp out : D.Message) :
    c.invoke asConn ctx rpc enc inp out =
      .ok (composeUnary (asConn c)
        (fun ctx' rpc' inp' out' enc' => conn0.invoke ctx' rpc' enc' inp' out')
        dopts.unaryInts ctx rpc inp out enc) := by
  obtain rfl := eq_of_newClientConnWithOptions hsupply hc
  exact invoke_initInterceptors asConn conn0 dopts ctx rpc enc inp out

theorem newStream_of_newClientConnWithOptions {E : Type} {dopts : DialOptions D}
    {connSupplier : Unit → Except E (Conn D)} {conn0 : Conn D} {c : ClientConn D}
    (hsupply : connSupplier () = .ok conn0)
    (hc : newClientConnWithOptions dopts connSupplier = .ok c)
    (ctx : D.Context) (rpc : String) (enc : D.Encoding) :
    c.newStream asConn ctx rpc enc =
      .ok (composeStream (asConn c) (fun ctx' method' => conn0.newStream ctx' method' enc)
        dopts.streamInts ctx rpc) := by
  obtain rfl := eq_of_newClientConnWithOptions hsupply hc
  exact newStream_initInterceptors asConn conn0 dopts ctx rpc enc

/-- **Whatever options the connection is built from, chained interceptors included,
both calls are the folds of the options' slices: an interceptor already stored in
`UnaryInt` or `StreamInt` never runs, and neither call panics.** -/
theorem calls_of_any_options {E : Type} (dopts : DialOptions D)
    {connSupplier : Unit → Except E (Conn D)} {conn0 : Conn D} {c : ClientConn D}
    (hsupply : connSupplier () = .ok conn0)
    (hc : newClientConnWithOptions dopts connSupplier = .ok c)
    (ctx : D.Context) (rpc : String) (enc : D.Encoding) (inp out : D.Message) :
    c.invoke asConn ctx rpc enc inp out =
        .ok (composeUnary (asConn c)
          (fun ctx' rpc' inp' out' enc' => conn0.invoke ctx' rpc' enc' inp' out')
          dopts.unaryInts ctx rpc inp out enc) ∧
      c.newStream asConn ctx rpc enc =
        .ok (composeStream (asConn c) (fun ctx' method' => conn0.newStream ctx' method' enc)
          dopts.streamInts ctx rpc) :=
  ⟨invoke_of_newClientConnWithOptions asConn hsupply hc ctx rpc enc inp out,
    newStream_of_newClientConnWithOptions asConn hsupply hc ctx rpc enc⟩

/-- The options of the documentation's example: `forwardOpts`, with the unary
interceptors chained before the options are handed over. -/
def prechainedOpts : DialOptions unitDrpc :=
  (newDialOptions (forwardOpts.map dialOption)).chainUnaryClientInterceptors

theorem calls_of_any_options_prechained :
    zeroDialer () = .ok zeroConn ∧
      newClientConnWithOptions prechainedOpts zeroDialer =
        .ok (ClientConn.initInterceptors ⟨zeroConn, prechainedOpts⟩) ∧
      (ClientConn.initInterceptors ⟨zeroConn, prechainedOpts⟩).invoke ClientConn.conn
          () "Method" () () () =
        .ok (composeUnary zeroConn
          (fun ctx' rpc' inp' out' enc' => zeroConn.invoke ctx' rpc' enc' inp' out')
          prechainedOpts.unaryInts () "Method" () () ()) ∧
      (ClientConn.initInterceptors ⟨zeroConn, prechainedOpts⟩).newStream ClientConn.conn
          () "Method" () =
        .ok (composeStream zeroConn (fun ctx' method' => zeroConn.newStream ctx' method' ())
          prechainedOpts.streamInts () "Method") :=
  ⟨rfl, rfl, @calls_of_any_options unitDrpc ClientConn.conn Unit prechainedOpts zeroDialer
    zeroConn _ rfl rfl () "Method" () () ()⟩

/-! ## A connection over another connection

A `ClientConn` is itself a `drpc.Conn`, so it can be supplied to a second
`NewClientConnWithOptions`; handing the interceptors the wrapper rather than the
raw connection is what lets the layers nest. The Go conversion of a wrapper into a
`drpc.Conn` is the parameter `asConn`; `Presents` says that the converted value
answers as the wrapper's own methods do. Under it, the handle an interceptor is
given runs the whole chain again when the interceptor calls it
(`Presents.invoker_eq`, `Presents.streamer_eq`). -/

/-- `asConn c` is the wrapper `c` seen as a `drpc.Conn`: its methods return what the
wrapper's methods return, none of which panics. -/
def Presents (c : ClientConn D) : Prop :=
  (∀ ctx rpc enc inp out,
    c.invoke asConn ctx rpc enc inp out = .ok ((asConn c).invoke ctx rpc enc inp out)) ∧
  ∀ ctx rpc enc, c.newStream asConn ctx rpc enc = .ok ((asConn c).newStream ctx rpc enc)

theorem Presents.invoker_eq {E : Type} {dopts : DialOptions D}
    {connSupplier : Unit → Except E (Conn D)} {conn0 : Conn D} {c : ClientConn D}
    (hpresents : Presents asConn c) (hsupply : connSupplier () = .ok conn0)
    (hc : newClientConnWithOptions dopts connSupplier = .ok c) :
    (fun ctx rpc inp out enc => (asConn c).invoke ctx rpc enc inp out : UnaryInvoker D) =
      composeUnary (asConn c)
        (fun ctx' rpc' inp' out' enc' => conn0.invoke ctx' rpc' enc' inp' out')
        dopts.unaryInts := by
  funext ctx rpc inp out enc
  exact Except.ok.inj ((hpresents.1 ..).symm.trans
    (invoke_of_newClientConnWithOptions asConn hsupply hc ..))

theorem Presents.streamer_eq {E : Type} {dopts : DialOptions D}
    {connSupplier : Unit → Except E (Conn D)} {conn0 : Conn D} {c : ClientConn D}
    (hpresents : Presents asConn c) (hsupply : connSupplier () = .ok conn0)
    (hc : newClientConnWithOptions dopts connSupplier = .ok c) (enc : D.Encoding) :
    (fun ctx method => (asConn c).newStream ctx method enc : Streamer D) =
      composeStream (asConn c) (fun ctx' method' => conn0.newStream ctx' method' enc)
        dopts.streamInts := by
  funext ctx method
  exact Except.ok.inj ((hpresents.2 ..).symm.trans
    (newStream_of_newClientConnWithOptions asConn hsupply hc ..))

/-- **A connection built over a presented connection of this package runs its own
chain outermost, every interceptor of it handed the outer wrapper, then the inner
chain, every interceptor of it handed the inner wrapper, then the inner connection,
for both calls.** -/
theorem calls_nest {E₁ E₂ : Type} {inner outer : DialOptions D}
    {supplier₁ : Unit → Except E₁ (Conn D)} {supplier₂ : Unit → Except E₂ (Conn D)}
    {conn0 : Conn D} {c₁ c₂ : ClientConn D}
    (hsupply₁ : supplier₁ () = .ok conn0)
    (hc₁ : newClientConnWithOptions inner supplier₁ = .ok c₁)
    (hpresents : Presents asConn c₁)
    (hsupply₂ : supplier₂ () = .ok (asConn c₁))
    (hc₂ : newClientConnWithOptions outer supplier₂ = .ok c₂)
    (ctx : D.Context) (rpc : String) (enc : D.Encoding) (inp out : D.Message) :
    c₂.invoke asConn ctx rpc enc inp out =
        .ok (composeUnary (asConn c₂)
          (composeUnary (asConn c₁)
            (fun ctx' rpc' inp' out' enc' => conn0.invoke ctx' rpc' enc' inp' out')
            inner.unaryInts)
          outer.unaryInts ctx rpc inp out enc) ∧
      c₂.newStream asConn ctx rpc enc =
        .ok (composeStream (asConn c₂)
          (composeStream (asConn c₁) (fun ctx' method' => conn0.newStream ctx' method' enc)
            inner.streamInts)
          outer.streamInts ctx rpc) := by
  rw [invoke_of_newClientConnWithOptions asConn hsupply₂ hc₂,
    newStream_of_newClientConnWithOptions asConn hsupply₂ hc₂,
    hpresents.invoker_eq asConn hsupply₁ hc₁, hpresents.streamer_eq asConn hsupply₁ hc₁]
  exact ⟨rfl, rfl⟩

/-- A `drpc.Conn` view of the wrappers over unit types: each method is the wrapper's
own call with `zeroConn` handed to the interceptors, and `0` for a panic. -/
def unitView (c : ClientConn unitDrpc) : Conn unitDrpc where
  invoke ctx rpc enc inp out :=
    match c.invoke (fun _ => zeroConn) ctx rpc enc inp out with
    | .ok r => r
    | .error _ => (0 : Nat)
  newStream ctx rpc enc :=
    match c.newStream (fun _ => zeroConn) ctx rpc enc with
    | .ok r => r
    | .error _ => (0 : Nat)

/-- The connection `forwardOpts` builds over `unitView forwardClient`. -/
def nestedForwardClient : ClientConn unitDrpc :=
  ClientConn.initInterceptors
    ⟨unitView forwardClient, newDialOptions (forwardOpts.map dialOption)⟩

theorem calls_nest_forward :
    zeroDialer () = .ok zeroConn ∧
      newClientConnWithOptions (newDialOptions (forwardOpts.map dialOption)) zeroDialer =
        .ok forwardClient ∧
      Presents unitView forwardClient ∧
      (fun _ => .ok (unitView forwardClient) : Unit → Except Unit (Conn unitDrpc)) () =
        .ok (unitView forwardClient) ∧
      newClientConnWithOptions (newDialOptions (forwardOpts.map dialOption))
          (fun _ => .ok (unitView forwardClient) : Unit → Except Unit (Conn unitDrpc)) =
        .ok nestedForwardClient ∧
      nestedForwardClient.invoke unitView () "Method" () () () =
        .ok (composeUnary (unitView nestedForwardClient)
          (composeUnary (unitView forwardClient)
            (fun ctx' rpc' inp' out' enc' => zeroConn.invoke ctx' rpc' enc' inp' out')
            (unaryArgs forwardOpts))
          (unaryArgs forwardOpts) () "Method" () () ()) ∧
      nestedForwardClient.newStream unitView () "Method" () =
        .ok (composeStream (unitView nestedForwardClient)
          (composeStream (unitView forwardClient)
            (fun ctx' method' => zeroConn.newStream ctx' method' ())
            (streamArgs forwardOpts))
          (streamArgs forwardOpts) () "Method") :=
  ⟨rfl, rfl, ⟨fun _ _ _ _ _ => rfl, fun _ _ _ => rfl⟩, rfl, rfl,
    @calls_nest unitDrpc unitView Unit Unit (newDialOptions (forwardOpts.map dialOption))
      (newDialOptions (forwardOpts.map dialOption)) zeroDialer
      (fun _ => .ok (unitView forwardClient)) zeroConn forwardClient nestedForwardClient
      rfl rfl ⟨fun _ _ _ _ _ => rfl, fun _ _ _ => rfl⟩ rfl rfl () "Method" () () ()⟩

end DrpcClient.Drcpclientconn

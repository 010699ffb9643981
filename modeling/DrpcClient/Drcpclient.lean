import DrpcClient.Chain
/-!
# Package `drcpclient`

The self-contained client package: its interceptor types take the encoding right
after the method name, `newDialOptions` chains both slices eagerly, and the
chained interceptors are always set, so every call goes through the loop of
`DrpcClient.Chain`. The wrapper hands itself to the interceptors as their
connection; the model keeps Go's conversion of a `ClientConn` into a `drpc.Conn`
as the parameter `asConn`, since the chaining code only passes that value on.

The reference side is `composeUnary` and `composeStream`: the composed call that
the interceptors are meant to produce, interceptor `1` outermost.
-/

namespace DrpcClient.Drcpclient

/-- `UnaryInvoker`. -/
abbrev UnaryInvoker (D : Drpc) :=
  D.Context → String → D.Encoding → D.Message → D.Message → D.Result

/-- `UnaryClientInterceptor`. -/
abbrev UnaryClientInterceptor (D : Drpc) :=
  D.Context → String → D.Encoding → D.Message → D.Message → Conn D → UnaryInvoker D →
    D.Result

/-- `Streamer`. -/
abbrev Streamer (D : Drpc) := D.Context → String → D.Encoding → D.StreamResult

/-- `StreamClientInterceptor`. -/
abbrev StreamClientInterceptor (D : Drpc) :=
  D.Context → String → D.Encoding → Conn D → Streamer D → D.StreamResult

/-- The type of `chainedUnaryInt`: a `UnaryClientInterceptor` that may panic. -/
abbrev ChainedUnaryInt (D : Drpc) :=
  D.Context → String → D.Encoding → D.Message → D.Message → Conn D → UnaryInvoker D →
    Except Panic D.Result

/-- The type of `chainedStreamInt`: a `StreamClientInterceptor` that may panic. -/
abbrev ChainedStreamInt (D : Drpc) :=
  D.Context → String → D.Encoding → Conn D → Streamer D → Except Panic D.StreamResult

/-- `DialOptions`; `none` is a nil chained interceptor. -/
structure DialOptions (D : Drpc) where
  chainedUnaryInt : Option (ChainedUnaryInt D)
  unaryInts : List (UnaryClientInterceptor D)
  chainedStreamInt : Option (ChainedStreamInt D)
  streamInts : List (StreamClientInterceptor D)

variable {D : Drpc}

/-- The zero value `DialOptions{}`. -/
def DialOptions.empty : DialOptions D := ⟨none, [], none, []⟩

/-- `DialOption`: a function that updates the options it is given. -/
abbrev DialOption (D : Drpc) := DialOptions D → DialOptions D

def withChainUnaryInterceptor (ints : List (UnaryClientInterceptor D)) : DialOption D :=
  fun opt => { opt with unaryInts := opt.unaryInts ++ ints }

def withChainStreamInterceptor (ints : List (StreamClientInterceptor D)) : DialOption D :=
  fun opt => { opt with streamInts := opt.streamInts ++ ints }

/-- The closure the loop of `chainUnaryClientInterceptors` builds around `next`. -/
def wrapUnary (conn : Conn D) (interceptor : UnaryClientInterceptor D)
    (next : UnaryInvoker D) : UnaryInvoker D :=
  fun ctx rpc enc inp out => interceptor ctx rpc enc inp out conn next

/-- The closure the loop of `chainStreamClientInterceptors` builds around `next`. -/
def wrapStream (conn : Conn D) (interceptor : StreamClientInterceptor D)
    (next : Streamer D) : Streamer D :=
  fun ctx rpc enc => interceptor ctx rpc enc conn next

/-- `(*DialOptions).chainUnaryClientInterceptors`. The closure reads `d.unaryInts`
through the pointer when it is called; nothing writes that field after
`newDialOptions`, so it reads the slice it was chained from. -/
def DialOptions.chainUnaryClientInterceptors (d : DialOptions D) : DialOptions D :=
  let n := d.unaryInts.length
  { d with chainedUnaryInt := some fun ctx rpc enc inp out conn invoker => do
      let chained ← chainLoop d.unaryInts (wrapUnary conn) n invoker
      pure (chained ctx rpc enc inp out) }

/-- `(*DialOptions).chainStreamClientInterceptors`. It bounds the loop over
`d.streamInts` by `len(d.unaryInts)`. -/
def DialOptions.chainStreamClientInterceptors (d : DialOptions D) : DialOptions D :=
  let n := d.unaryInts.length
  { d with chainedStreamInt := some fun ctx rpc enc conn streamer => do
      let chained ← chainLoop d.streamInts (wrapStream conn) n streamer
      pure (chained ctx rpc enc) }

/-- The loop `for _, opt := range opts { opt(options) }` of `newDialOptions`. -/
def applyDialOptions (opts : List (DialOption D)) (options : DialOptions D) :
    DialOptions D :=
  opts.foldl (fun options opt => opt options) options

def newDialOptions (opts : List (DialOption D)) : DialOptions D :=
  (applyDialOptions opts .empty).chainUnaryClientInterceptors.chainStreamClientInterceptors

/-- `ClientConn`: the embedded `drpc.Conn` and the shared `*DialOptions`. -/
structure ClientConn (D : Drpc) where
  conn : Conn D
  dopts : DialOptions D

/-- `NewClientConnWithOptions`; the dialer's `(conn, err)` is an `Except`. -/
def newClientConnWithOptions {E : Type} (ctx : D.Context)
    (dialer : D.Context → Except E (Conn D)) (dialOpts : List (DialOption D)) :
    Except E (ClientConn D) := do
  let conn ← dialer ctx
  let dopts := newDialOptions dialOpts
  pure { conn := conn, dopts := dopts }

variable (asConn : ClientConn D → Conn D)

/-- `(ClientConn).Invoke`. -/
def ClientConn.invoke (c : ClientConn D) (ctx : D.Context) (rpc : String)
    (enc : D.Encoding) (inp out : D.Message) : Except Panic D.Result :=
  let invoker := c.conn.invoke
  match c.dopts.chainedUnaryInt with
  | some chained => chained ctx rpc enc inp out (asConn c) invoker
  | none => .ok (invoker ctx rpc enc inp out)

/-- `(ClientConn).NewStream`. -/
def ClientConn.newStream (c : ClientConn D) (ctx : D.Context) (rpc : String)
    (enc : D.Encoding) : Except Panic D.StreamResult :=
  let streamer := c.conn.newStream
  match c.dopts.chainedStreamInt with
  | some chained => chained ctx rpc enc (asConn c) streamer
  | none => .ok (streamer ctx rpc enc)

/-- A dial option built by one of the two constructors. -/
def dialOption : OptionCall (UnaryClientInterceptor D) (StreamClientInterceptor D) →
    DialOption D
  | .unary ints => withChainUnaryInterceptor ints
  | .stream ints => withChainStreamInterceptor ints

/-! ## The composed calls the chains are meant to produce -/

/-- The composed unary call: the first interceptor runs on the caller's arguments,
every interceptor is handed `cc`, and the `next` of each runs the rest of the
chain on the arguments it is given, ending in `terminal`. -/
def composeUnary (cc : Conn D) (terminal : UnaryInvoker D) :
    List (UnaryClientInterceptor D) → UnaryInvoker D
  | [] => terminal
  | interceptor :: rest => fun ctx rpc enc inp out =>
    interceptor ctx rpc enc inp out cc (composeUnary cc terminal rest)

/-- The composed stream open, built the same way over `terminal`. -/
def composeStream (cc : Conn D) (terminal : Streamer D) :
    List (StreamClientInterceptor D) → Streamer D
  | [] => terminal
  | interceptor :: rest => fun ctx rpc enc =>
    interceptor ctx rpc enc cc (composeStream cc terminal rest)

theorem composeUnary_eq_foldr (cc : Conn D) (terminal : UnaryInvoker D)
    (ints : List (UnaryClientInterceptor D)) :
    composeUnary cc terminal ints = ints.foldr (wrapUnary cc) terminal := by
  induction ints with
  | nil => rfl
  | cons interceptor rest ih => rw [composeUnary, ih]; rfl

theorem composeStream_eq_foldr (cc : Conn D) (terminal : Streamer D)
    (ints : List (StreamClientInterceptor D)) :
    composeStream cc terminal ints = ints.foldr (wrapStream cc) terminal := by
  induction ints with
  | nil => rfl
  | cons interceptor rest ih => rw [composeStream, ih]; rfl

/-! ## Building the options and the connection -/

@[simp] theorem applyDialOptions_nil (options : DialOptions D) :
    applyDialOptions [] options = options := rfl

@[simp] theorem applyDialOptions_cons (opt : DialOption D) (opts : List (DialOption D))
    (options : DialOptions D) :
    applyDialOptions (opt :: opts) options = applyDialOptions opts (opt options) := rfl

theorem applyDialOptions_dialOption
    (opts : List (OptionCall (UnaryClientInterceptor D) (StreamClientInterceptor D)))
    (options : DialOptions D) :
    applyDialOptions (opts.map dialOption) options =
      { options with unaryInts := options.unaryInts ++ unaryArgs opts,
                     streamInts := options.streamInts ++ streamArgs opts } := by
  induction opts generalizing options with
  | nil => simp [unaryArgs, streamArgs]
  | cons opt opts ih =>
    cases opt <;>
      simp [ih, dialOption, withChainUnaryInterceptor, withChainStreamInterceptor,
        unaryArgs, streamArgs]

theorem newClientConnWithOptions_eq {E : Type} (ctx : D.Context)
    (dialer : D.Context → Except E (Conn D)) (opts : List (DialOption D)) :
    newClientConnWithOptions ctx dialer opts =
      (dialer ctx).map fun conn => ⟨conn, newDialOptions opts⟩ := by
  unfold newClientConnWithOptions
  cases dialer ctx <;> rfl

theorem newDialOptions_dialOption
    (opts : List (OptionCall (UnaryClientInterceptor D) (StreamClientInterceptor D))) :
    newDialOptions (opts.map dialOption) =
      (DialOptions.mk none (unaryArgs opts) none (streamArgs opts)
        ).chainUnaryClientInterceptors.chainStreamClientInterceptors := by
  rw [newDialOptions, applyDialOptions_dialOption]
  rfl

theorem eq_of_newClientConnWithOptions {E : Type} {ctx : D.Context}
    {dialer : D.Context → Except E (Conn D)} {conn0 : Conn D} {c : ClientConn D}
    {opts : List (DialOption D)} (hdial : dialer ctx = .ok conn0)
    (hc : newClientConnWithOptions ctx dialer opts = .ok c) :
    c = ⟨conn0, newDialOptions opts⟩ := by
  rw [newClientConnWithOptions_eq, hdial] at hc
  exact (Except.ok.inj hc).symm

/-! ## Calls through the chained options -/

theorem chainedUnaryInt_of_chained (d : DialOptions D) :
    d.chainUnaryClientInterceptors.chainStreamClientInterceptors.chainedUnaryInt =
      some fun ctx rpc enc inp out cc invoker =>
        .ok (composeUnary cc invoker d.unaryInts ctx rpc enc inp out) := by
  simp only [DialOptions.chainStreamClientInterceptors, DialOptions.chainUnaryClientInterceptors,
    chainLoop_length, composeUnary_eq_foldr]
  rfl

theorem chainedStreamInt_of_chained (d : DialOptions D) :
    d.chainUnaryClientInterceptors.chainStreamClientInterceptors.chainedStreamInt =
      some fun ctx rpc enc cc streamer =>
        if d.unaryInts.length ≤ d.streamInts.length then
          .ok (composeStream cc streamer (d.streamInts.take d.unaryInts.length) ctx rpc enc)
        else .error (.indexOutOfRange (d.unaryInts.length - 1) d.streamInts.length) := by
  simp only [DialOptions.chainStreamClientInterceptors, DialOptions.chainUnaryClientInterceptors,
    composeStream_eq_foldr, Option.some.injEq]
  funext ctx rpc enc cc streamer
  split_ifs with h
  · rw [chainLoop_of_le _ _ _ h]; rfl
  · rw [chainLoop_of_lt _ _ _ (by omega)]; rfl

theorem invoke_of_chained (conn : Conn D) (d : DialOptions D)
    (ctx : D.Context) (rpc : String) (enc : D.Encoding) (inp out : D.Message) :
    ClientConn.invoke asConn
        ⟨conn, d.chainUnaryClientInterceptors.chainStreamClientInterceptors⟩
        ctx rpc enc inp out =
      .ok (composeUnary
        (asConn ⟨conn, d.chainUnaryClientInterceptors.chainStreamClientInterceptors⟩)
        conn.invoke d.unaryInts ctx rpc enc inp out) := by
  simp only [ClientConn.invoke, chainedUnaryInt_of_chained]

theorem newStream_of_chained (conn : Conn D) (d : DialOptions D)
    (ctx : D.Context) (rpc : String) (enc : D.Encoding) :
    ClientConn.newStream asConn
        ⟨conn, d.chainUnaryClientInterceptors.chainStreamClientInterceptors⟩ ctx rpc enc =
      if d.unaryInts.length ≤ d.streamInts.length then
        .ok (composeStream
          (asConn ⟨conn, d.chainUnaryClientInterceptors.chainStreamClientInterceptors⟩)
          conn.newStream (d.streamInts.take d.unaryInts.length) ctx rpc enc)
      else .error (.indexOutOfRange (d.unaryInts.length - 1) d.streamInts.length) := by
  simp only [ClientConn.newStream, chainedStreamInt_of_chained]

/-! ## Connections over unit types

Interceptors that pass every call on, registered over several options, and the
connection they build over `zeroConn`. -/

/-- An interceptor that passes the call on unchanged. -/
def forwardUnary : UnaryClientInterceptor unitDrpc :=
  fun ctx rpc enc inp out _ next => next ctx rpc enc inp out

/-- Two unary and two stream interceptors, each passing the call on, over four
options. -/
def forwardOpts : List (OptionCall (UnaryClientInterceptor unitDrpc)
    (StreamClientInterceptor unitDrpc)) :=
  [.unary [forwardUnary], .stream [fun ctx rpc enc _ next => next ctx rpc enc],
    .unary [forwardUnary], .stream [fun ctx rpc enc _ next => next ctx rpc enc]]

/-- The connection `forwardOpts` builds over `zeroConn`. -/
def forwardClient : ClientConn unitDrpc :=
  ⟨zeroConn, newDialOptions (forwardOpts.map dialOption)⟩

/-! ## Calls on a connection built from options

`U` is every argument of the `WithChainUnaryInterceptor` options in order, and `S`
every argument of the `WithChainStreamInterceptor` ones. -/

/-- **`Invoke` is the right fold of the unary interceptors over the dialed
connection.** -/
theorem invoke_eq_composeUnary {E : Type}
    (opts : List (OptionCall (UnaryClientInterceptor D) (StreamClientInterceptor D)))
    {ctx : D.Context} {dialer : D.Context → Except E (Conn D)} {conn0 : Conn D}
    {c : ClientConn D} (hdial : dialer ctx = .ok conn0)
    (hc : newClientConnWithOptions ctx dialer (opts.map dialOption) = .ok c)
    (ctx' : D.Context) (rpc : String) (enc : D.Encoding) (inp out : D.Message) :
    c.invoke asConn ctx' rpc enc inp out =
      .ok (composeUnary (asConn c) conn0.invoke (unaryArgs opts) ctx' rpc enc inp out) := by
  obtain rfl := eq_of_newClientConnWithOptions hdial hc
  rw [newDialOptions_dialOption]
  exact invoke_of_chained asConn conn0 _ ctx' rpc enc inp out

theorem invoke_eq_composeUnary_forward :
    zeroDialer () = .ok zeroConn ∧
      newClientConnWithOptions () zeroDialer (forwardOpts.map dialOption) =
        .ok forwardClient ∧
      forwardClient.invoke ClientConn.conn () "Method" () () () =
        .ok (composeUnary zeroConn zeroConn.invoke (unaryArgs forwardOpts) () "Method" () () ()) :=
  ⟨rfl, rfl, @invoke_eq_composeUnary unitDrpc ClientConn.conn Unit forwardOpts () zeroDialer
    zeroConn forwardClient rfl rfl () "Method" () () ()⟩

/-- `NewStream` runs the first `|U|` stream interceptors when `|U| ≤ |S|`, and panics
reading `S[|U| - 1]` otherwise. -/
theorem newStream_eq_take {E : Type}
    (opts : List (OptionCall (UnaryClientInterceptor D) (StreamClientInterceptor D)))
    {ctx : D.Context} {dialer : D.Context → Except E (Conn D)} {conn0 : Conn D}
    {c : ClientConn D} (hdial : dialer ctx = .ok conn0)
    (hc : newClientConnWithOptions ctx dialer (opts.map dialOption) = .ok c)
    (ctx' : D.Context) (rpc : String) (enc : D.Encoding) :
    c.newStream asConn ctx' rpc enc =
      if (unaryArgs opts).length ≤ (streamArgs opts).length then
        .ok (composeStream (asConn c) conn0.newStream
          ((streamArgs opts).take (unaryArgs opts).length) ctx' rpc enc)
      else
        .error (.indexOutOfRange ((unaryArgs opts).length - 1) (streamArgs opts).length) := by
  obtain rfl := eq_of_newClientConnWithOptions hdial hc
  rw [newDialOptions_dialOption]
  exact newStream_of_chained asConn conn0 _ ctx' rpc enc

theorem newStream_eq_take_forward :
    zeroDialer () = .ok zeroConn ∧
      newClientConnWithOptions () zeroDialer (forwardOpts.map dialOption) =
        .ok forwardClient ∧
      forwardClient.newStream ClientConn.conn () "Method" () =
        if (unaryArgs forwardOpts).length ≤ (streamArgs forwardOpts).length then
          .ok (composeStream zeroConn zeroConn.newStream
            ((streamArgs forwardOpts).take (unaryArgs forwardOpts).length) () "Method" ())
        else .error (.indexOutOfRange ((unaryArgs forwardOpts).length - 1)
          (streamArgs forwardOpts).length) :=
  ⟨rfl, rfl, @newStream_eq_take unitDrpc ClientConn.conn Unit forwardOpts () zeroDialer
    zeroConn forwardClient rfl rfl () "Method" ()⟩

/-- With one unary interceptor and no stream interceptor, `NewStream` panics reading
`streamInts[0]`, where the fold over no stream interceptors is the plain call. -/
theorem newStream_panics_without_stream_interceptors :
    (newClientConnWithOptions () zeroDialer [withChainUnaryInterceptor [forwardUnary]]).map
        (fun c => c.newStream ClientConn.conn () "Method" ()) =
      .ok (.error (.indexOutOfRange 0 0)) ∧
      composeStream zeroConn zeroConn.newStream [] () "Method" () = (0 : Nat) :=
  ⟨rfl, rfl⟩

end DrpcClient.Drcpclient

import DrpcClient.Drcpclient
import DrpcClient.Drpcinterceptors
/-!
# The two client packages agree

`drcpclient` and `drpcinterceptors`, whose options `drcpclientconn` chains, are two
versions of one design that order the arguments of their unary types differently.
Seen through that reordering a `drcpclient` interceptor is a `drpcinterceptors`
one. The results compare what each wrapper does with its chained interceptor: call
it with the handle and the terminal, or call the terminal directly when it is nil.
They hold for every handle and every terminal, so they do not depend on which
handle a wrapper passes (each passes itself).

The unary chains agree for every number of interceptors. The stream chains agree,
through the embedding of a `drpcinterceptors` stream interceptor that supplies the
caller's encoding to its streamer, when there are as many unary as stream
interceptors, so that the stream loop of `drcpclient`, bounded by the unary count,
runs over every stream interceptor.
-/

namespace DrpcClient.Agreement

variable {D : Drpc}

/-- A `drcpclient` invoker in the argument order of `drpcinterceptors`. -/
def reorderInvoker (invoker : Drcpclient.UnaryInvoker D) : Drpcinterceptors.UnaryInvoker D :=
  fun ctx method inp out enc => invoker ctx method enc inp out

/-- A `drcpclient` interceptor in the argument order of `drpcinterceptors`, whose
`next` is put back in its own order. -/
def reorderUnary (interceptor : Drcpclient.UnaryClientInterceptor D) :
    Drpcinterceptors.UnaryClientInterceptor D :=
  fun ctx method inp out cc enc next =>
    interceptor ctx method enc inp out cc fun ctx method enc inp out =>
      next ctx method inp out enc

theorem composeUnary_reorder (cc : Conn D) (terminal : Drcpclient.UnaryInvoker D)
    (ints : List (Drcpclient.UnaryClientInterceptor D)) (ctx : D.Context) (method : String)
    (inp out : D.Message) (enc : D.Encoding) :
    Drpcinterceptors.composeUnary cc (reorderInvoker terminal) (ints.map reorderUnary)
        ctx method inp out enc =
      Drcpclient.composeUnary cc terminal ints ctx method enc inp out := by
  induction ints generalizing ctx method inp out enc with
  | nil => rfl
  | cons interceptor rest ih =>
    show interceptor ctx method enc inp out cc _ = interceptor ctx method enc inp out cc _
    congr
    funext ctx method enc inp out
    exact ih ..

/-- **For every handle and every invoker, the chained unary interceptor of
`drpcinterceptors` over the reordered interceptors and that of `drcpclient`, each
called as its wrapper's `Invoke` calls it, return the same result.** -/
theorem chainedUnary_agree
    (opts₁ : List (OptionCall (Drcpclient.UnaryClientInterceptor D)
      (Drcpclient.StreamClientInterceptor D)))
    (opts₂ : List (OptionCall (Drpcinterceptors.UnaryClientInterceptor D)
      (Drpcinterceptors.StreamClientInterceptor D)))
    (hU : unaryArgs opts₂ = (unaryArgs opts₁).map reorderUnary)
    (cc : Conn D) (invoker : Drcpclient.UnaryInvoker D)
    (ctx : D.Context) (rpc : String) (enc : D.Encoding) (inp out : D.Message) :
    (match (Drpcinterceptors.newDialOptions
        (opts₂.map Drpcinterceptors.dialOption)).chainUnaryClientInterceptors.unaryInt with
      | some unaryInt => unaryInt ctx rpc inp out cc enc (reorderInvoker invoker)
      | none => .ok (reorderInvoker invoker ctx rpc inp out enc)) =
    (match (Drcpclient.newDialOptions (opts₁.map Drcpclient.dialOption)).chainedUnaryInt with
      | some chained => chained ctx rpc enc inp out cc invoker
      | none => .ok (invoker ctx rpc enc inp out)) := by
  refine (Drpcinterceptors.unaryInt_call _ cc _ ctx rpc inp out enc).trans ?_
  rw [Drcpclient.newDialOptions_dialOption, Drcpclient.chainedUnaryInt_of_chained,
    Drpcinterceptors.newDialOptions_dialOption]
  dsimp only
  rw [hU]
  exact congrArg Except.ok (composeUnary_reorder cc invoker _ ctx rpc inp out enc)

/-- `Drcpclient.forwardOpts` in the types of `drpcinterceptors`: its unary
interceptors reordered, and two stream interceptors passing the call on. -/
def reorderedForwardOpts : List (OptionCall (Drpcinterceptors.UnaryClientInterceptor unitDrpc)
    (Drpcinterceptors.StreamClientInterceptor unitDrpc)) :=
  [.unary ((unaryArgs Drcpclient.forwardOpts).map reorderUnary),
    .stream [fun ctx method _ next => next ctx method, fun ctx method _ next => next ctx method]]

theorem chainedUnary_agree_forward :
    unaryArgs reorderedForwardOpts = (unaryArgs Drcpclient.forwardOpts).map reorderUnary ∧
      (match (Drpcinterceptors.newDialOptions (reorderedForwardOpts.map
          Drpcinterceptors.dialOption)).chainUnaryClientInterceptors.unaryInt with
        | some unaryInt => unaryInt () "Method" () () zeroConn () (reorderInvoker zeroConn.invoke)
        | none => .ok (reorderInvoker zeroConn.invoke () "Method" () () ())) =
      (match (Drcpclient.newDialOptions
          (Drcpclient.forwardOpts.map Drcpclient.dialOption)).chainedUnaryInt with
        | some chained => chained () "Method" () () () zeroConn zeroConn.invoke
        | none => .ok (zeroConn.invoke () "Method" () () ())) :=
  ⟨rfl, chainedUnary_agree Drcpclient.forwardOpts reorderedForwardOpts rfl zeroConn
    zeroConn.invoke () "Method" () () ()⟩

/-! ## Stream calls -/

/-- A `drpcinterceptors` stream interceptor in the type of `drcpclient`: the encoding
it is called with is the one its streamer passes on. -/
def embedStream (interceptor : Drpcinterceptors.StreamClientInterceptor D) :
    Drcpclient.StreamClientInterceptor D :=
  fun ctx method enc cc streamer => interceptor ctx method cc fun ctx method =>
    streamer ctx method enc

theorem composeStream_embed (cc : Conn D) (terminal : Drcpclient.Streamer D)
    (ints : List (Drpcinterceptors.StreamClientInterceptor D)) (ctx : D.Context)
    (method : String) (enc : D.Encoding) :
    Drcpclient.composeStream cc terminal (ints.map embedStream) ctx method enc =
      Drpcinterceptors.composeStream cc (fun ctx method => terminal ctx method enc) ints
        ctx method := by
  induction ints generalizing ctx method with
  | nil => rfl
  | cons interceptor rest ih =>
    show interceptor ctx method cc _ = interceptor ctx method cc _
    congr
    funext ctx method
    exact ih ..

/-- **For every handle and every streamer, when there are as many unary as stream
interceptors, the chained stream interceptor of `drpcinterceptors` and that of
`drcpclient` over the same interceptors embedded, each called as its wrapper's
`NewStream` calls it, return the same result.** -/
theorem chainedStream_agree
    (opts₁ : List (OptionCall (Drcpclient.UnaryClientInterceptor D)
      (Drcpclient.StreamClientInterceptor D)))
    (opts₂ : List (OptionCall (Drpcinterceptors.UnaryClientInterceptor D)
      (Drpcinterceptors.StreamClientInterceptor D)))
    (hS : streamArgs opts₁ = (streamArgs opts₂).map embedStream)
    (hlen : (unaryArgs opts₁).length = (streamArgs opts₁).length)
    (cc : Conn D) (streamer : Drcpclient.Streamer D)
    (ctx : D.Context) (rpc : String) (enc : D.Encoding) :
    (match (Drpcinterceptors.newDialOptions
        (opts₂.map Drpcinterceptors.dialOption)).chainStreamClientInterceptors.streamInt with
      | some streamInt => streamInt ctx rpc cc fun ctx method => streamer ctx method enc
      | none => .ok (streamer ctx rpc enc)) =
    (match (Drcpclient.newDialOptions (opts₁.map Drcpclient.dialOption)).chainedStreamInt with
      | some chained => chained ctx rpc enc cc streamer
      | none => .ok (streamer ctx rpc enc)) := by
  refine (Drpcinterceptors.streamInt_call _ cc _ ctx rpc).trans ?_
  rw [Drcpclient.newDialOptions_dialOption, Drcpclient.chainedStreamInt_of_chained,
    Drpcinterceptors.newDialOptions_dialOption]
  dsimp only
  rw [if_pos hlen.le, hlen, List.take_length, hS]
  exact congrArg Except.ok (composeStream_embed cc streamer _ ctx rpc enc).symm

theorem chainedStream_agree_forward :
    streamArgs Drcpclient.forwardOpts = (streamArgs reorderedForwardOpts).map embedStream ∧
      (unaryArgs Drcpclient.forwardOpts).length = (streamArgs Drcpclient.forwardOpts).length ∧
      (match (Drpcinterceptors.newDialOptions (reorderedForwardOpts.map
          Drpcinterceptors.dialOption)).chainStreamClientInterceptors.streamInt with
        | some streamInt => streamInt () "Method" zeroConn fun ctx method =>
            zeroConn.newStream ctx method ()
        | none => .ok (zeroConn.newStream () "Method" ())) =
      (match (Drcpclient.newDialOptions
          (Drcpclient.forwardOpts.map Drcpclient.dialOption)).chainedStreamInt with
        | some chained => chained () "Method" () zeroConn zeroConn.newStream
        | none => .ok (zeroConn.newStream () "Method" ())) :=
  ⟨rfl, rfl, chainedStream_agree Drcpclient.forwardOpts reorderedForwardOpts rfl rfl zeroConn
    zeroConn.newStream () "Method" ()⟩

end DrpcClient.Agreement

import DrpcClient.Chain
/-!
# Package `drpcinterceptors`

The interceptor package that `drcpclientconn` builds on. Its unary types take the
messages before the connection and the encoding last, and its streamer takes
only a context and a method. `NewDialOptions` only applies the options; the
chaining functions, run by the connection, store nothing for no interceptor,
the interceptor itself for one, and the loop of `DrpcClient.Chain` for more.

Both chaining functions are the one switch `chainSwitch`. For every length it
leaves the chained field nil when the slice is empty and otherwise stores the
right fold of the slice, for every connection and invoker it is handed.
-/

namespace DrpcClient.Drpcinterceptors

/-- `UnaryInvoker`. -/
abbrev UnaryInvoker (D : Drpc) :=
  D.Context → String → D.Message → D.Message → D.Encoding → D.Result

/-- `UnaryClientInterceptor`. -/
abbrev UnaryClientInterceptor (D : Drpc) :=
  D.Context → String → D.Message → D.Message → Conn D → D.Encoding → UnaryInvoker D →
    D.Result

/-- `Streamer`. -/
abbrev Streamer (D : Drpc) := D.Context → String → D.StreamResult

/-- `StreamClientInterceptor`. -/
abbrev StreamClientInterceptor (D : Drpc) :=
  D.Context → String → Conn D → Streamer D → D.StreamResult

/-- The type of `UnaryInt`: a `UnaryClientInterceptor` that may panic. -/
abbrev ChainedUnaryInt (D : Drpc) :=
  D.Context → String → D.Message → D.Message → Conn D → D.Encoding → UnaryInvoker D →
    Except Panic D.Result

/-- The type of `StreamInt`: a `StreamClientInterceptor` that may panic. -/
abbrev ChainedStreamInt (D : Drpc) :=
  D.Context → String → Conn D → Streamer D → Except Panic D.StreamResult

/-- `DialOptions`; `none` is a nil chained interceptor. -/
structure DialOptions (D : Drpc) where
  unaryInt : Option (ChainedUnaryInt D)
  unaryInts : List (UnaryClientInterceptor D)
  streamInt : Option (ChainedStreamInt D)
  streamInts : List (StreamClientInterceptor D)

variable {D : Drpc}

/-- The zero value `DialOptions{}`. -/
def DialOptions.empty : DialOptions D := ⟨none, [], none, []⟩

/-- `DialOption`: a function that updates the options it is given. -/
abbrev DialOption (D : Drpc) := DialOptions D → DialOptions D

def withChainUnaryInterceptor (ints : List (UnaryClientInterceptor D)) : DialOption D :=
  fun opt => { opt with unaryInts := opt.unaryInts ++ ints }

def withChainStreamInterceptor (ints : List (StreamClientInterceptor D)) : DialOption D :=
  fun opt => { opt with streamInts := opt.streamInts ++ ints }

/-- `NewDialOptions`: the options applied in order to the zero value. -/
def newDialOptions (opts : List (DialOption D)) : DialOptions D :=
  opts.foldl (fun options opt => opt options) .empty

/-- The closure the loop of `ChainUnaryClientInterceptors` builds around `next`. -/
def wrapUnary (conn : Conn D) (interceptor : UnaryClientInterceptor D)
    (next : UnaryInvoker D) : UnaryInvoker D :=
  fun ctx method inp out enc => interceptor ctx method inp out conn enc next

/-- The closure the loop of `ChainStreamClientInterceptors` builds around `next`. -/
def wrapStream (conn : Conn D) (interceptor : StreamClientInterceptor D)
    (next : Streamer D) : Streamer D :=
  fun ctx method => interceptor ctx method conn next

/-- The switch on `n := len(ints)` shared by the two chaining functions: nil for no
interceptor, the one at index `0` for one, and the loop bounded by `n` for more. -/
def chainSwitch {α χ : Type} (ints : List α) (single : α → χ) (loop : Nat → χ) :
    Option χ :=
  match h : ints.length with
  | 0 => none
  | 1 => some (single (ints.get ⟨0, by omega⟩))
  | n => some (loop n)

/-- `(*DialOptions).ChainUnaryClientInterceptors`. -/
def DialOptions.chainUnaryClientInterceptors (d : DialOptions D) : DialOptions D :=
  { d with
    unaryInt := chainSwitch d.unaryInts
      (fun interceptor ctx method inp out conn enc invoker =>
        .ok (interceptor ctx method inp out conn enc invoker))
      (fun n ctx method inp out conn enc invoker => do
        let chained ← chainLoop d.unaryInts (wrapUnary conn) n invoker
        pure (chained ctx method inp out enc)) }

/-- `(*DialOptions).ChainStreamClientInterceptors`. -/
def DialOptions.chainStreamClientInterceptors (d : DialOptions D) : DialOptions D :=
  { d with
    streamInt := chainSwitch d.streamInts
      (fun interceptor ctx method conn streamer => .ok (interceptor ctx method conn streamer))
      (fun n ctx method conn streamer => do
        let chained ← chainLoop d.streamInts (wrapStream conn) n streamer
        pure (chained ctx method)) }

/-- A dial option built by one of the two constructors. -/
def dialOption : OptionCall (UnaryClientInterceptor D) (StreamClientInterceptor D) →
    DialOption D
  | .unary ints => withChainUnaryInterceptor ints
  | .stream ints => withChainStreamInterceptor ints

/-! ## The composed calls the chains are meant to produce -/

/-- The composed unary call: the first interceptor runs on the caller's arguments,
every interceptor is handed `cc`, and the `next` of each runs the rest of the
chain on the arguments it is given, ending in `terminal`. -/
def composeUnary (cc : Conn D) (terminal : UnaryInvoker D) :
    List (UnaryClientInterceptor D) → UnaryInvoker D
  | [] => terminal
  | interceptor :: rest => fun ctx method inp out enc =>
    interceptor ctx method inp out cc enc (composeUnary cc terminal rest)

/-- The composed stream open, built the same way over `terminal`. -/
def composeStream (cc : Conn D) (terminal : Streamer D) :
    List (StreamClientInterceptor D) → Streamer D
  | [] => terminal
  | interceptor :: rest => fun ctx method =>
    interceptor ctx method cc (composeStream cc terminal rest)

theorem composeUnary_eq_foldr (cc : Conn D) (terminal : UnaryInvoker D)
    (ints : List (UnaryClientInterceptor D)) :
    composeUnary cc terminal ints = ints.foldr (wrapUnary cc) terminal := by
  induction ints with
  | nil => rfl
  | cons interceptor rest ih => rw [composeUnary, ih]; rfl

theorem composeStream_eq_foldr (cc : Conn D) (terminal : Streamer D)
    (ints : List (StreamClientInterceptor D)) :
    composeStream cc terminal ints = ints.foldr (wrapStream cc) terminal := by
  induction ints with
  | nil => rfl
  | cons interceptor rest ih => rw [composeStream, ih]; rfl

/-! ## Every length agrees with the fold -/

theorem chainSwitch_eq {α χ : Type} {ints : List α} {single : α → χ} {loop : Nat → χ}
    (chained : χ) (hsingle : ∀ i, ints = [i] → single i = chained)
    (hloop : loop ints.length = chained) :
    chainSwitch ints single loop = if ints.isEmpty then none else some chained := by
  unfold chainSwitch
  split
  · simp [List.length_eq_zero.mp ‹_›]
  · obtain ⟨i, hi⟩ := List.length_eq_one.mp ‹_›
    rw [List.get_of_eq hi]
    simp [hi, hsingle i hi]
  · cases ints <;> simp_all

theorem chainUnaryClientInterceptors_unaryInt (d : DialOptions D) :
    d.chainUnaryClientInterceptors.unaryInt =
      if d.unaryInts.isEmpty then none
      else some (fun ctx method inp out cc enc invoker =>
        .ok (composeUnary cc invoker d.unaryInts ctx method inp out enc) : ChainedUnaryInt D) := by
  dsimp only [DialOptions.chainUnaryClientInterceptors]
  refine chainSwitch_eq _ ?_ ?_
  · intro interceptor hone
    rw [hone]
    rfl
  · funext ctx method inp out cc enc invoker
    simp only [chainLoop_length, composeUnary_eq_foldr]
    rfl

theorem chainStreamClientInterceptors_streamInt (d : DialOptions D) :
    d.chainStreamClientInterceptors.streamInt =
      if d.streamInts.isEmpty then none
      else some (fun ctx method cc streamer =>
        .ok (composeStream cc streamer d.streamInts ctx method) : ChainedStreamInt D) := by
  dsimp only [DialOptions.chainStreamClientInterceptors]
  refine chainSwitch_eq _ ?_ ?_
  · intro interceptor hone
    rw [hone]
    rfl
  · funext ctx method cc streamer
    simp only [chainLoop_length, composeStream_eq_foldr]
    rfl

theorem unaryInt_call (d : DialOptions D) (cc : Conn D) (invoker : UnaryInvoker D)
    (ctx : D.Context) (method : String) (inp out : D.Message) (enc : D.Encoding) :
    (match d.chainUnaryClientInterceptors.unaryInt with
      | some unaryInt => unaryInt ctx method inp out cc enc invoker
      | none => .ok (invoker ctx method inp out enc)) =
      .ok (composeUnary cc invoker d.unaryInts ctx method inp out enc) := by
  rw [chainUnaryClientInterceptors_unaryInt]
  split_ifs with hempty
  · rw [List.isEmpty_iff.mp hempty]; rfl
  · rfl

theorem streamInt_call (d : DialOptions D) (cc : Conn D) (streamer : Streamer D)
    (ctx : D.Context) (method : String) :
    (match d.chainStreamClientInterceptors.streamInt with
      | some streamInt => streamInt ctx method cc streamer
      | none => .ok (streamer ctx method)) =
      .ok (composeStream cc streamer d.streamInts ctx method) := by
  rw [chainStreamClientInterceptors_streamInt]
  split_ifs with hempty
  · rw [List.isEmpty_iff.mp hempty]; rfl
  · rfl

@[simp] theorem chainUnaryClientInterceptors_unaryInts (d : DialOptions D) :
    d.chainUnaryClientInterceptors.unaryInts = d.unaryInts := rfl

@[simp] theorem chainUnaryClientInterceptors_streamInts (d : DialOptions D) :
    d.chainUnaryClientInterceptors.streamInts = d.streamInts := rfl

@[simp] theorem chainStreamClientInterceptors_unaryInt (d : DialOptions D) :
    d.chainStreamClientInterceptors.unaryInt = d.unaryInt := rfl

/-! ## Building the options -/

theorem foldl_dialOption
    (opts : List (OptionCall (UnaryClientInterceptor D) (StreamClientInterceptor D)))
    (options : DialOptions D) :
    (opts.map dialOption).foldl (fun options opt => opt options) options =
      { options with unaryInts := options.unaryInts ++ unaryArgs opts,
                     streamInts := options.streamInts ++ streamArgs opts } := by
  induction opts generalizing options with
  | nil => simp [unaryArgs, streamArgs]
  | cons opt opts ih =>
    cases opt <;>
      simp [ih, dialOption, withChainUnaryInterceptor, withChainStreamInterceptor,
        unaryArgs, streamArgs]

theorem newDialOptions_dialOption
    (opts : List (OptionCall (UnaryClientInterceptor D) (StreamClientInterceptor D))) :
    newDialOptions (opts.map dialOption) = ⟨none, unaryArgs opts, none, streamArgs opts⟩ := by
  rw [newDialOptions, foldl_dialOption]
  rfl

end DrpcClient.Drpcinterceptors

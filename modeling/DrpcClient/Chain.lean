import Mathlib.Data.List.Basic
/-!
# The closure-building loop

Both client packages compose their interceptors the same way. At call time they
walk the interceptor slice from index `n - 1` down to `0`, wrap the continuation
built so far in one closure per interceptor, and then call the outermost
closure. This module models that loop once, together with the bounds-checked
slice read it performs, and shows that it is a right fold of the first `n`
interceptors when `n` is in range and a panic at its first read otherwise.
-/

namespace DrpcClient

/-- The types the packages take from `context` and `storj.io/drpc`; the chaining
code only passes their values along. `Result` is what a unary call gives back (its
`error`, with whatever the call does on the way) and `StreamResult` what opening
a stream gives back (`(drpc.Stream, error)`). -/
structure Drpc where
  Context : Type
  Encoding : Type
  Message : Type
  Result : Type
  StreamResult : Type

/-- `drpc.Conn`, by the two methods the wrappers call on it. -/
structure Conn (D : Drpc) where
  invoke : D.Context → String → D.Encoding → D.Message → D.Message → D.Result
  newStream : D.Context → String → D.Encoding → D.StreamResult

/-- The Go runtime panic the packages can raise: a slice read out of range. -/
inductive Panic
  | indexOutOfRange (index length : Nat)
  deriving DecidableEq, Repr

variable {α κ : Type}

/-- The slice read `ints[i]`, which panics when `i` is out of range. -/
def sliceGet (ints : List α) (i : Nat) : Except Panic α :=
  match ints[i]? with
  | some x => .ok x
  | none => .error (.indexOutOfRange i ints.length)

/-- The loop shared by the four chaining functions,
```
chained := invoker
for i := n - 1; i >= 0; i-- {
	next := chained
	interceptor := ints[i]
	chained = wrap(interceptor, next)
}
```
run as `chainLoop ints wrap n invoker`: the argument `i + 1` counts the iterations
left, the next of which reads `ints[i]`. -/
def chainLoop (ints : List α) (wrap : α → κ → κ) : Nat → κ → Except Panic κ
  | 0, chained => .ok chained
  | i + 1, chained => do
    let interceptor ← sliceGet ints i
    chainLoop ints wrap i (wrap interceptor chained)

theorem sliceGet_of_lt {ints : List α} {i : Nat} (h : i < ints.length) :
    sliceGet ints i = .ok ints[i] := by
  simp [sliceGet, List.getElem?_eq_getElem h]

theorem sliceGet_of_le {ints : List α} {i : Nat} (h : ints.length ≤ i) :
    sliceGet ints i = .error (.indexOutOfRange i ints.length) := by
  simp [sliceGet, List.getElem?_eq_none h]

theorem chainLoop_of_le (ints : List α) (wrap : α → κ → κ) {n : Nat} (k : κ)
    (h : n ≤ ints.length) :
    chainLoop ints wrap n k = .ok ((ints.take n).foldr wrap k) := by
  induction n generalizing k with
  | zero => rfl
  | succ i ih =>
    have hi : i < ints.length := by omega
    rw [chainLoop, sliceGet_of_lt hi, List.take_succ, List.getElem?_eq_getElem hi,
      List.foldr_append]
    exact ih _ (by omega)

theorem chainLoop_of_lt (ints : List α) (wrap : α → κ → κ) {n : Nat} (k : κ)
    (h : ints.length < n) :
    chainLoop ints wrap n k = .error (.indexOutOfRange (n - 1) ints.length) := by
  obtain ⟨i, rfl⟩ : ∃ i, n = i + 1 := ⟨n - 1, by omega⟩
  rw [chainLoop, sliceGet_of_le (by omega)]
  rfl

theorem chainLoop_length (ints : List α) (wrap : α → κ → κ) (k : κ) :
    chainLoop ints wrap ints.length k = .ok (ints.foldr wrap k) := by
  rw [chainLoop_of_le ints wrap k le_rfl, List.take_length]

/-! ## Options as the packages build them

Each package has two constructors of dial options, and both append their
arguments to a slice. The theorems about connections quantify over any sequence of
them, so a sequence is given by the constructor and the arguments of each option. -/

/-- A dial option by its constructor and arguments: `WithChainUnaryInterceptor(ints...)`
or `WithChainStreamInterceptor(ints...)`. -/
inductive OptionCall (U S : Type)
  | unary (ints : List U)
  | stream (ints : List S)

variable {U S : Type}

/-- The unary interceptors a sequence of options registers, in the order given. -/
def unaryArgs : List (OptionCall U S) → List U
  | [] => []
  | .unary ints :: opts => ints ++ unaryArgs opts
  | .stream _ :: opts => unaryArgs opts

/-- The stream interceptors a sequence of options registers, in the order given. -/
def streamArgs : List (OptionCall U S) → List S
  | [] => []
  | .unary _ :: opts => streamArgs opts
  | .stream ints :: opts => ints ++ streamArgs opts

/-! ## Unit types for runs -/

/-- Unit context, encoding and message, with calls that return numbers. -/
def unitDrpc : Drpc := ⟨Unit, Unit, Unit, Nat, Nat⟩

/-- A connection whose calls return `0`. -/
def zeroConn : Conn unitDrpc := ⟨fun _ _ _ _ _ => (0 : Nat), fun _ _ _ => (0 : Nat)⟩

/-- A dialer, or a connection supplier, that always returns `zeroConn`. -/
def zeroDialer : Unit → Except Unit (Conn unitDrpc) := fun _ => .ok zeroConn

end DrpcClient

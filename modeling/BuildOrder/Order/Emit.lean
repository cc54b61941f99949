import BuildOrder.Value.Printer

/-!
# Writing an order

An order is written one item a line, strings as they are and everything else as compact JSON, or as one JSON
array on a line of its own.

A `Sink` is what the text is written to. It may be able to take a limited number of bytes; a write that does
not fit leaves the bytes that do.
-/

namespace BuildOrder

inductive Emit where
  | lines
  | json
deriving DecidableEq

/-- What an order is written to: the bytes written so far, and the room left if it is limited. -/
structure Sink where
  written : ByteArray
  room? : Option Nat

namespace Sink

def empty (room? : Option Nat) : Sink := ⟨.empty, room?⟩

/-- Write a text; `false` if it does not fit. -/
def write (sink : Sink) (text : String) : Sink × Bool :=
  let bytes := text.toUTF8
  match sink.room? with
  | none => (⟨sink.written ++ bytes, none⟩, true)
  | some room =>
    if bytes.size ≤ room then (⟨sink.written ++ bytes, some (room - bytes.size)⟩, true)
    else (⟨sink.written ++ bytes.extract 0 room, some 0⟩, false)

end Sink

/-- Why an order could not be written: the sink is full, perhaps while the array was being written. -/
inductive WriteError where
  | full
  | fullInArray
deriving DecidableEq

def itemLine : Value → List Char
  | .str s => s.toList
  | v => v.chars

namespace Emit

/-- The text of an order without the line feed that ends it in the style of one array. -/
def body : Emit → List Value → List Char
  | .lines, order => order.flatMap fun v => itemLine v ++ ['\n']
  | .json, order => (Value.arr order).chars

def text (emit : Emit) (order : List Value) : List Char :=
  match emit with
  | .lines => emit.body order
  | .json => emit.body order ++ ['\n']

end Emit

def writeOrder (sink : Sink) (order : List Value) (emit : Emit) : Sink × Except WriteError Unit :=
  match sink.write (String.ofList (emit.body order)), emit with
  | (sink, true), .lines => (sink, .ok ())
  | (sink, false), .lines => (sink, .error .full)
  | (sink, false), .json => (sink, .error .fullInArray)
  | (sink, true), .json =>
    match sink.write "\n" with
    | (sink, true) => (sink, .ok ())
    | (sink, false) => (sink, .error .full)

end BuildOrder

import ChainGateway.Model.Kind

/-!
# Envelopes

Every successful reply wraps its value in an envelope. A page becomes the list of its
items, with the token of the next page beside it.
-/

namespace ChainGateway.Web

open Json Model

structure Envelope (α : Type) where
  result : α
  token : Option String
  deriving DecidableEq, Repr

namespace Envelope

variable {α : Type}

def codec (c : Codec α) : Codec (Envelope α) :=
  .record
    (.field (.named "result" c) <|
    .field { Field.sparse "continuationToken" Codec.text with short := some none } .done)
    (fun e => (e.result, e.token, ())) (fun (result, token, ()) => ⟨result, token⟩)

def new (result : α) : Envelope α := ⟨result, none⟩

def ofPage (p : Page α) : Envelope (List α) := ⟨p.items, p.token⟩

/-- An answer in its envelope. -/
def ofAnswer : Answer → String
  | ⟨.one i, v⟩ => (codec i.codec).encode (new v)
  | ⟨.list i, v⟩ => (codec i.codec.list).encode (new v)
  | ⟨.page i, p⟩ => (codec i.codec.list).encode (ofPage p)

end Envelope
end ChainGateway.Web

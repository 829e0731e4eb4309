import ChainGateway.Json.Record

/-!
# Pages

One page of a listing, with an opaque token for the page after it.
-/

namespace ChainGateway.Model

open Json

structure Page (α : Type) where
  items : List α
  /-- Where the next page continues; a last page has none. -/
  token : Option String
  deriving DecidableEq, Repr

namespace Page

variable {α β : Type}

def last (items : List α) : Page α := ⟨items, none⟩

instance : Inhabited (Page α) := ⟨last []⟩

def hasMore (p : Page α) : Bool := p.token.isSome

def size (p : Page α) : Nat := p.items.length

def isEmpty (p : Page α) : Bool := p.items.isEmpty

def map (f : α → β) (p : Page α) : Page β := ⟨p.items.map f, p.token⟩

def codec (c : Codec α) : Codec (Page α) :=
  .record (.field (.named "items" c.list) <| .field (.sparse "continuationToken" Codec.text) .done)
    (fun p => (p.items, p.token, ())) (fun (items, token, ()) => ⟨items, token⟩)

end Page
end ChainGateway.Model

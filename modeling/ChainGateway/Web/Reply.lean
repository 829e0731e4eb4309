/-!
# Replies

What is sent back for a request. Header names are lower-case.
-/

namespace ChainGateway.Web

structure Reply where
  status : Nat
  headers : List (String × String)
  body : String
  deriving DecidableEq, Repr, Inhabited

namespace Reply

def empty (status : Nat) : Reply := ⟨status, [], ""⟩

def text (status : Nat) (body : String) : Reply :=
  ⟨status, [("content-type", "text/plain; charset=utf-8")], body⟩

def json (status : Nat) (body : String) : Reply :=
  ⟨status, [("content-type", "application/json")], body⟩

def addHeaders (r : Reply) (headers : List (String × String)) : Reply :=
  { r with headers := r.headers ++ headers }

/-- The reply without its body. -/
def head (r : Reply) : Reply := { r with body := "" }

/-- The headers in the order of their names. -/
def sortedHeaders (r : Reply) : List (String × String) :=
  r.headers.mergeSort fun a b => !(b.1 < a.1)

end Reply
end ChainGateway.Web

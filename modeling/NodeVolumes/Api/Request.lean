import NodeVolumes.Api.Call

/-! # Requests and responses of the API server

A call becomes a request, whose address names the namespace and the object, and the response is read as
objects. A call that no request can be written for fails on the spot, and the server never hears of it; a
response of the wrong shape fails, too, though the server has done what it was asked for.

* `Call.isWritable` tells the calls that a request can be written for.
* `Call.target?` is the name of the object as the server sees it.
* `Call.Body` is what a response carries, `Call.receive` reads it. -/

namespace NodeVolumes.Api

/-! ### Addresses -/

/-- Tells the characters that may stand in an address: the printing ones of ASCII but the angle
brackets. -/
def isAddressChar (c : Char) : Bool := 0x20 < c.toNat && c.toNat < 0x7F && c != '<' && c != '>'

/-- Tells whether the part of an address behind its question mark can be written. What follows a number
sign does not matter. -/
def isQuery : List Char → Bool
  | [] => true
  | c :: rest => c == '#' || isAddressChar c && c != '"' && isQuery rest

/-- Tells whether an address can be written. -/
def isAddress : List Char → Bool
  | [] => true
  | '?' :: rest => isQuery rest
  | c :: rest => c == '#' || isAddressChar c && c != '\x60' && isAddress rest

/-- The part of a name that an address tells the server: a question mark or a number sign ends it. -/
def addressed (name : String) : String :=
  String.ofList (name.toList.takeWhile fun c => c != '?' && c != '#')

example : isAddress "a\"b|c".toList = true ∧ isAddress "a b".toList = false := by decide +kernel
example : isAddress "a?b\x60".toList = true ∧ isAddress "a?\"".toList = false := by decide +kernel
example : addressed "a?b#c" = "a" := by decide +kernel

namespace Call

/-- Tells the calls whose request names an object in its address. -/
def namesObject : Call → Bool
  | list .. | create .. => false
  | get .. | replace .. | delete .. | patch .. => true

/-- The name of the object that a call is about, as the server sees it. -/
def target? (c : Call) : Option String := if c.namesObject then c.name?.map addressed else c.name?

/-- The part of the address that differs between requests for one kind. -/
def address (c : Call) : List Char :=
  (c.ns.getD "").toList ++ '/' :: (if c.namesObject then (c.name?.getD "").toList else [])

/-- Tells the calls that a request can be written for. -/
def isWritable (c : Call) : Bool := isAddress c.address

/-- The objects in all namespaces can always be asked for. -/
@[simp] theorem isWritable_list_none (kind : Kind) (selector : Option String) :
    (list kind none selector).isWritable = true := by
  simp [isWritable, namesObject, address, ns, isAddress, isAddressChar]

/-! ### Responses -/

/-- What the response to a call carries. -/
@[reducible] def Body : Call → Type
  | list .. => List Json
  | delete .. => Unit
  | get .. | create .. | replace .. | patch .. => Json

/-- The answer that a response carries, none when it is of the wrong shape. -/
def answer? : (c : Call) → c.Body → Option c.Answer
  | list kind .., items => items.mapM kind.read?
  | delete .., _ => some ()
  | get kind .., j | create kind .., j | replace kind .., j | patch kind .., j => kind.read? j

/-- The answer to a call whose response carries a failure under a code that does not tell one: only who
deletes does not ask for an object. -/
def answerAnyway? : (c : Call) → Option c.Answer
  | delete .. => some ()
  | list .. | get .. | create .. | replace .. | patch .. => none

/-- What comes back from a call by its response. -/
def receive (c : Call) (response : Except ApiFailure c.Body) : Reply c :=
  match response with
  | .ok body => (c.answer? body).elim (.error .unreadable) .ok
  | .error f =>
    if 400 ≤ f.code ∧ f.code < 600 then .error (.reported f)
    else c.answerAnyway?.elim (.error .unreadable) .ok

end Call
end NodeVolumes.Api

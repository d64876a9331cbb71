import SceneMarkup.Log.Thing.Members
import SceneMarkup.Text.Quoted

/-! # Things

What a template can name: texts, and whatever is reached from a text through its members. Every
thing has a kind, and kinds are things themselves.
-/

namespace SceneMarkup.Log

namespace Thing

inductive Kind where
  | object
  | text
  | kind
  | tuple
  | absent
  | bound
  | wrapper
  | operation
  | slot
  | property
  | field
  | shared
  | table
  deriving DecidableEq, Repr

namespace Kind

def name : Kind → String
  | object => "object"
  | text => "str"
  | kind => "type"
  | tuple => "tuple"
  | absent => "NoneType"
  | bound => "builtin_function_or_method"
  | wrapper => "method-wrapper"
  | operation => "method_descriptor"
  | slot => "wrapper_descriptor"
  | property => "getset_descriptor"
  | field => "member_descriptor"
  | shared => "classmethod_descriptor"
  | table => "mappingproxy"

def home : String := "builtins"

def members : Kind → List Member
  | object => commonMembers
  | text => textMembers
  | kind => kindMembers
  | tuple => tupleMembers
  | absent => absentMembers
  | bound => boundMembers
  | wrapper => wrapperMembers
  | operation => operationMembers
  | slot => slotMembers
  | property => propertyMembers
  | field => fieldMembers
  | shared => sharedMembers
  | table => tableMembers

def base? (k : Kind) : Option Kind := if k = object then none else some object

/-- A kind and the kinds that it refines, nearest first. -/
def line (k : Kind) : List Kind := k :: k.base?.toList

def member? (k : Kind) (name : String) : Option Member := k.members.find? (·.name == name)

/-- The kind that defines a member for a kind, with the member. -/
def find? (k : Kind) (name : String) : Option (Kind × Member) :=
  k.line.findSome? fun k => (k.member? name).map (k, ·)

def description? : Kind → Option String
  | object => some ("The base class of the class hierarchy.\n\nWhen called, it accepts no " ++
      "arguments and returns a new featureless\ninstance that has no instance attributes and " ++
      "cannot be given any.\n")
  | text => some ("str(object='') -> str\nstr(bytes_or_buffer[, encoding[, errors]]) -> str\n\n" ++
      "Create a new string object from the given object. If encoding or\nerrors is specified, " ++
      "then the object must expose a data buffer\nthat will be decoded using the given " ++
      "encoding and error handler.\nOtherwise, returns the result of object.__str__() (if " ++
      "defined)\nor repr(object).\nencoding defaults to sys.getdefaultencoding().\nerrors " ++
      "defaults to 'strict'.")
  | kind =>
      some "type(object) -> the object's type\ntype(name, bases, dict, **kwds) -> a new type"
  | tuple => some ("Built-in immutable sequence.\n\nIf no argument is given, the constructor " ++
      "returns an empty tuple.\nIf iterable is specified the tuple is initialized from " ++
      "iterable's items.\n\nIf the argument is a tuple, the return value is the same object.")
  | _ => none

/-- The form of the arguments of a kind that makes things. -/
def form? : Kind → Option String
  | object => some "()"
  | tuple => some "(iterable=(), /)"
  | _ => none

end Kind

end Thing

inductive Thing where
  | text (s : List Char)
  | absent
  | kind (k : Thing.Kind)
  | tuple (ks : List Thing.Kind)
  /-- A member bound to a thing; operators are bound in a way of their own. -/
  | bound (owner : Thing.Kind) (member : Thing.Member) (subject : Thing)
  /-- A member as its kind defines it. -/
  | unbound (owner : Thing.Kind) (member : Thing.Member)
  /-- The members that a kind defines. -/
  | table (k : Thing.Kind)
  deriving Repr

namespace Thing

inductive Refusal where
  | noSuchMember
  | noSuchPosition
  | noSuchKey (key : String)
  /-- The thing cannot be asked for that at all. -/
  | unsuited
  deriving DecidableEq, Repr

def ofText (s : String) : Thing := text s.toList

def ofText? : Option String → Thing
  | some s => ofText s
  | none => absent

def ofKind? : Option Kind → Thing
  | some k => kind k
  | none => absent

def Offer.kind : Offer → Kind
  | .slot => .slot
  | .property => .property
  | .field => .field
  | .shared => .shared
  | _ => .operation

def kindOf : Thing → Kind
  | text _ => .text
  | absent => .absent
  | kind _ => .kind
  | tuple _ => .tuple
  | bound _ m _ => if m.offer = .slot then .wrapper else .bound
  | unbound _ m => m.offer.kind
  | table _ => .table

/-- The full name of a bound operation: it belongs to the kind that it is bound to, or to the kind
of the thing that it is bound to. -/
def boundName (m : Member) : Thing → String
  | kind k => k.name ++ "." ++ m.name
  | subject => subject.kindOf.name ++ "." ++ m.name

/-- The description of a kind; a kind of members is described by the property that describes its
things. -/
def describe (k : Kind) : Thing :=
  match k.description?, k.member? "__doc__" with
  | some s, _ => ofText s
  | none, some m => if m.offer = .property then unbound k m else absent
  | none, none => absent

def propertyOfKind (k : Kind) : String → Except Refusal Thing
  | "__name__" | "__qualname__" => .ok (ofText k.name)
  | "__module__" => .ok (ofText Kind.home)
  | "__bases__" => .ok (tuple k.base?.toList)
  | "__base__" => .ok (ofKind? k.base?)
  | "__mro__" => .ok (tuple k.line)
  | "__dict__" => .ok (table k)
  | "__doc__" => .ok (describe k)
  | "__text_signature__" => .ok (ofText? k.form?)
  | _ => .error .noSuchMember

/-- A property of a member of a kind, where `full` is the member's full name. -/
def propertyOfMember (owner : Kind) (m : Member) (full : String) : String → Except Refusal Thing
  | "__name__" => .ok (ofText m.name)
  | "__qualname__" => .ok (ofText full)
  | "__doc__" => .ok (ofText? m.description)
  | "__text_signature__" => .ok (ofText? m.form)
  | "__objclass__" => .ok (kind owner)
  | "__module__" => .ok absent
  | _ => .error .noSuchMember

def property (name : String) (t : Thing) : Except Refusal Thing :=
  if name = "__class__" then .ok (kind t.kindOf)
  else match t with
    | kind k => propertyOfKind k name
    | bound owner m subject =>
        if name = "__self__" then .ok subject
        else
          let full := if m.offer = .slot then owner.name ++ "." ++ m.name else boundName m subject
          propertyOfMember owner m full name
    | unbound owner m => propertyOfMember owner m (owner.name ++ "." ++ m.name) name
    | _ => .error .noSuchMember

def bindTo (owner : Kind) (m : Member) (t : Thing) : Except Refusal Thing :=
  match m.offer with
  | .operation | .slot => .ok (bound owner m t)
  | .property | .field => property m.name t
  | .maker | .free => .ok (bound owner m (kind owner))
  | .shared => .ok (bound owner m (kind t.kindOf))
  | .description => .ok (describe owner)
  | .absent => .ok absent

def ofMember (owner : Kind) (m : Member) (k : Kind) : Thing :=
  match m.offer with
  | .operation | .slot | .property | .field => unbound owner m
  | .maker | .free => bound owner m (kind owner)
  | .shared => bound owner m (kind k)
  | .description => describe owner
  | .absent => absent

/-- What a thing offers under a name. For a kind, what it defines for its things comes before what
it offers as a thing, except for properties. -/
def member (t : Thing) (name : String) : Except Refusal Thing :=
  let own : Except Refusal Thing := match t.kindOf.find? name with
    | some (owner, m) => bindTo owner m t
    | none => .error .noSuchMember
  match t with
  | kind k =>
      let isProperty := (Kind.kind.find? name).any fun (_, m) =>
        m.offer == .property || m.offer == .field
      if isProperty then own
      else match k.find? name with
        | some (owner, m) => .ok (ofMember owner m k)
        | none => own
  | _ => own

/-- What stands at a position of a thing. -/
def item (t : Thing) (position : Nat) : Except Refusal Thing :=
  match t with
  | text s => match s[position]? with
    | some c => .ok (text [c])
    | none => .error .noSuchPosition
  | tuple ks => match ks[position]? with
    | some k => .ok (kind k)
    | none => .error .noSuchPosition
  | table _ => .error (.noSuchKey (toString position))
  | _ => .error .unsuited

def entry (t : Thing) (key : String) : Except Refusal Thing :=
  match t with
  | table k => match k.member? key with
    | some m => .ok (if m.offer = .shared then unbound k m else ofMember k m k)
    | none => .error (.noSuchKey key)
  | _ => .error .unsuited

def shownKind (k : Kind) : String := "<class '" ++ k.name ++ "'>"

/-- The text of a thing in messages. Where a thing is stored does not show. -/
def shown : Thing → String
  | text s => Text.Quoted.text (String.ofList s)
  | absent => "None"
  | kind k => shownKind k
  | tuple [k] => "(" ++ shownKind k ++ ",)"
  | tuple ks => "(" ++ ", ".intercalate (ks.map shownKind) ++ ")"
  | bound _ m subject =>
      if m.offer = .slot then
        "<method-wrapper '" ++ m.name ++ "' of " ++ subject.kindOf.name ++ " object>"
      else "<built-in method " ++ m.name ++ " of " ++ subject.kindOf.name ++ " object>"
  | unbound owner m =>
      let offer := match m.offer with
        | .slot => "slot wrapper"
        | .property => "attribute"
        | .field => "member"
        | _ => "method"
      "<" ++ offer ++ " '" ++ m.name ++ "' of '" ++ owner.name ++ "' objects>"
  | table k => "<members of '" ++ k.name ++ "' objects>"

end Thing

end SceneMarkup.Log

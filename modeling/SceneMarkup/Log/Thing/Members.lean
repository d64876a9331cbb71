/-! # Members

What a thing offers by name: operations, operators, properties and descriptions. The members of
texts, of operations and of kinds are listed with their descriptions and the forms of their
arguments.
-/

namespace SceneMarkup.Log.Thing

inductive Offer where
  /-- An operation, bound to the thing it is asked of. -/
  | operation
  /-- An operation behind a notation, such as adding. -/
  | slot
  | property
  | field
  /-- What makes new things; it belongs to the kind itself. -/
  | maker
  /-- An operation that needs no thing. -/
  | free
  /-- An operation of the kind as a whole. -/
  | shared
  /-- The description of the kind. -/
  | description
  /-- A member that is there but absent. -/
  | absent
  deriving DecidableEq, Repr

structure Member where
  name : String
  offer : Offer
  description : Option String
  form : Option String
  deriving DecidableEq, Repr

/-! ### Operations -/

def boundMembers : List Member := [
  ⟨"__repr__", .slot, some "Return repr(self).", some "($self, /)"⟩,
  ⟨"__hash__", .slot, some "Return hash(self).", some "($self, /)"⟩,
  ⟨"__call__", .slot, some "Call self as a function.", some "($self, /, *args, **kwargs)"⟩,
  ⟨"__getattribute__", .slot, some "Return getattr(self, name).", some "($self, name, /)"⟩,
  ⟨"__lt__", .slot, some "Return self<value.", some "($self, value, /)"⟩,
  ⟨"__le__", .slot, some "Return self<=value.", some "($self, value, /)"⟩,
  ⟨"__eq__", .slot, some "Return self==value.", some "($self, value, /)"⟩,
  ⟨"__ne__", .slot, some "Return self!=value.", some "($self, value, /)"⟩,
  ⟨"__gt__", .slot, some "Return self>value.", some "($self, value, /)"⟩,
  ⟨"__ge__", .slot, some "Return self>=value.", some "($self, value, /)"⟩,
  ⟨"__reduce__", .operation, none, none⟩,
  ⟨"__module__", .field, none, none⟩,
  ⟨"__doc__", .property, none, none⟩,
  ⟨"__name__", .property, none, none⟩,
  ⟨"__qualname__", .property, none, none⟩,
  ⟨"__self__", .property, none, none⟩,
  ⟨"__text_signature__", .property, none, none⟩]

/-- What bound operators offer. -/
def wrapperMembers : List Member := [
  ⟨"__repr__", .slot, some "Return repr(self).", some "($self, /)"⟩,
  ⟨"__hash__", .slot, some "Return hash(self).", some "($self, /)"⟩,
  ⟨"__call__", .slot, some "Call self as a function.", some "($self, /, *args, **kwargs)"⟩,
  ⟨"__getattribute__", .slot, some "Return getattr(self, name).", some "($self, name, /)"⟩,
  ⟨"__lt__", .slot, some "Return self<value.", some "($self, value, /)"⟩,
  ⟨"__le__", .slot, some "Return self<=value.", some "($self, value, /)"⟩,
  ⟨"__eq__", .slot, some "Return self==value.", some "($self, value, /)"⟩,
  ⟨"__ne__", .slot, some "Return self!=value.", some "($self, value, /)"⟩,
  ⟨"__gt__", .slot, some "Return self>value.", some "($self, value, /)"⟩,
  ⟨"__ge__", .slot, some "Return self>=value.", some "($self, value, /)"⟩,
  ⟨"__reduce__", .operation, none, none⟩,
  ⟨"__self__", .field, none, none⟩,
  ⟨"__objclass__", .property, none, none⟩,
  ⟨"__name__", .property, none, none⟩,
  ⟨"__qualname__", .property, none, none⟩,
  ⟨"__doc__", .property, none, none⟩,
  ⟨"__text_signature__", .property, none, none⟩]

def operationMembers : List Member := [
  ⟨"__repr__", .slot, some "Return repr(self).", some "($self, /)"⟩,
  ⟨"__call__", .slot, some "Call self as a function.", some "($self, /, *args, **kwargs)"⟩,
  ⟨"__getattribute__", .slot, some "Return getattr(self, name).", some "($self, name, /)"⟩,
  ⟨"__get__", .slot, some "Return an attribute of instance, which is of type owner.",
    some "($self, instance, owner=None, /)"⟩,
  ⟨"__reduce__", .operation, none, none⟩,
  ⟨"__objclass__", .field, none, none⟩,
  ⟨"__name__", .field, none, none⟩,
  ⟨"__doc__", .property, none, none⟩,
  ⟨"__qualname__", .property, none, none⟩,
  ⟨"__text_signature__", .property, none, none⟩]

/-- What operators offer as their kind defines them. -/
def slotMembers : List Member := [
  ⟨"__repr__", .slot, some "Return repr(self).", some "($self, /)"⟩,
  ⟨"__call__", .slot, some "Call self as a function.", some "($self, /, *args, **kwargs)"⟩,
  ⟨"__getattribute__", .slot, some "Return getattr(self, name).", some "($self, name, /)"⟩,
  ⟨"__get__", .slot, some "Return an attribute of instance, which is of type owner.",
    some "($self, instance, owner=None, /)"⟩,
  ⟨"__reduce__", .operation, none, none⟩,
  ⟨"__objclass__", .field, none, none⟩,
  ⟨"__name__", .field, none, none⟩,
  ⟨"__doc__", .property, none, none⟩,
  ⟨"__qualname__", .property, none, none⟩,
  ⟨"__text_signature__", .property, none, none⟩]

def propertyMembers : List Member := [
  ⟨"__repr__", .slot, some "Return repr(self).", some "($self, /)"⟩,
  ⟨"__getattribute__", .slot, some "Return getattr(self, name).", some "($self, name, /)"⟩,
  ⟨"__get__", .slot, some "Return an attribute of instance, which is of type owner.",
    some "($self, instance, owner=None, /)"⟩,
  ⟨"__set__", .slot, some "Set an attribute of instance to value.",
    some "($self, instance, value, /)"⟩,
  ⟨"__delete__", .slot, some "Delete an attribute of instance.", some "($self, instance, /)"⟩,
  ⟨"__objclass__", .field, none, none⟩,
  ⟨"__name__", .field, none, none⟩,
  ⟨"__doc__", .property, none, none⟩,
  ⟨"__qualname__", .property, none, none⟩]

def fieldMembers : List Member := [
  ⟨"__repr__", .slot, some "Return repr(self).", some "($self, /)"⟩,
  ⟨"__getattribute__", .slot, some "Return getattr(self, name).", some "($self, name, /)"⟩,
  ⟨"__get__", .slot, some "Return an attribute of instance, which is of type owner.",
    some "($self, instance, owner=None, /)"⟩,
  ⟨"__set__", .slot, some "Set an attribute of instance to value.",
    some "($self, instance, value, /)"⟩,
  ⟨"__delete__", .slot, some "Delete an attribute of instance.", some "($self, instance, /)"⟩,
  ⟨"__reduce__", .operation, none, none⟩,
  ⟨"__objclass__", .field, none, none⟩,
  ⟨"__name__", .field, none, none⟩,
  ⟨"__doc__", .property, none, none⟩,
  ⟨"__qualname__", .property, none, none⟩]

/-- What operations of whole kinds offer as their kind defines them. -/
def sharedMembers : List Member := [
  ⟨"__repr__", .slot, some "Return repr(self).", some "($self, /)"⟩,
  ⟨"__call__", .slot, some "Call self as a function.", some "($self, /, *args, **kwargs)"⟩,
  ⟨"__getattribute__", .slot, some "Return getattr(self, name).", some "($self, name, /)"⟩,
  ⟨"__get__", .slot, some "Return an attribute of instance, which is of type owner.",
    some "($self, instance, owner=None, /)"⟩,
  ⟨"__objclass__", .field, none, none⟩,
  ⟨"__name__", .field, none, none⟩,
  ⟨"__doc__", .property, none, none⟩,
  ⟨"__qualname__", .property, none, none⟩,
  ⟨"__text_signature__", .property, none, none⟩]

/-! ### Kinds -/

def commonMembers : List Member := [
  ⟨"__new__", .maker,
    some "Create and return a new object.  See help(type) for accurate signature.",
    some "($type, *args, **kwargs)"⟩,
  ⟨"__repr__", .slot, some "Return repr(self).", some "($self, /)"⟩,
  ⟨"__hash__", .slot, some "Return hash(self).", some "($self, /)"⟩,
  ⟨"__str__", .slot, some "Return str(self).", some "($self, /)"⟩,
  ⟨"__getattribute__", .slot, some "Return getattr(self, name).", some "($self, name, /)"⟩,
  ⟨"__setattr__", .slot, some "Implement setattr(self, name, value).",
    some "($self, name, value, /)"⟩,
  ⟨"__delattr__", .slot, some "Implement delattr(self, name).", some "($self, name, /)"⟩,
  ⟨"__lt__", .slot, some "Return self<value.", some "($self, value, /)"⟩,
  ⟨"__le__", .slot, some "Return self<=value.", some "($self, value, /)"⟩,
  ⟨"__eq__", .slot, some "Return self==value.", some "($self, value, /)"⟩,
  ⟨"__ne__", .slot, some "Return self!=value.", some "($self, value, /)"⟩,
  ⟨"__gt__", .slot, some "Return self>value.", some "($self, value, /)"⟩,
  ⟨"__ge__", .slot, some "Return self>=value.", some "($self, value, /)"⟩,
  ⟨"__init__", .slot, some "Initialize self.  See help(type(self)) for accurate signature.",
    some "($self, /, *args, **kwargs)"⟩,
  ⟨"__reduce_ex__", .operation, some "Helper for pickle.", some "($self, protocol, /)"⟩,
  ⟨"__reduce__", .operation, some "Helper for pickle.", some "($self, /)"⟩,
  ⟨"__getstate__", .operation, some "Helper for pickle.", some "($self, /)"⟩,
  ⟨"__subclasshook__", .shared,
    some ("Abstract classes can override this to customize issubclass().\n\nThis is invoked " ++
      "early on by abc.ABCMeta.__subclasscheck__().\nIt should return True, False or " ++
      "NotImplemented.  If it returns\nNotImplemented, the normal algorithm is used.  " ++
      "Otherwise, it\noverrides the normal algorithm (and the outcome is cached).\n"),
    none⟩,
  ⟨"__init_subclass__", .shared,
    some ("This method is called when a class is subclassed.\n\nThe default implementation " ++
      "does nothing. It may be\noverridden to extend subclasses.\n"),
    none⟩,
  ⟨"__format__", .operation, some "Default object formatter.", some "($self, format_spec, /)"⟩,
  ⟨"__sizeof__", .operation, some "Size of object in memory, in bytes.", some "($self, /)"⟩,
  ⟨"__dir__", .operation, some "Default dir() implementation.", some "($self, /)"⟩,
  ⟨"__class__", .property, some "the object's class", none⟩,
  ⟨"__doc__", .description, none, none⟩]

def kindMembers : List Member := [
  ⟨"__new__", .maker,
    some "Create and return a new object.  See help(type) for accurate signature.",
    some "($type, *args, **kwargs)"⟩,
  ⟨"__repr__", .slot, some "Return repr(self).", some "($self, /)"⟩,
  ⟨"__call__", .slot, some "Call self as a function.", some "($self, /, *args, **kwargs)"⟩,
  ⟨"__getattribute__", .slot, some "Return getattr(self, name).", some "($self, name, /)"⟩,
  ⟨"__setattr__", .slot, some "Implement setattr(self, name, value).",
    some "($self, name, value, /)"⟩,
  ⟨"__delattr__", .slot, some "Implement delattr(self, name).", some "($self, name, /)"⟩,
  ⟨"__init__", .slot, some "Initialize self.  See help(type(self)) for accurate signature.",
    some "($self, /, *args, **kwargs)"⟩,
  ⟨"__or__", .slot, some "Return self|value.", some "($self, value, /)"⟩,
  ⟨"__ror__", .slot, some "Return value|self.", some "($self, value, /)"⟩,
  ⟨"mro", .operation, some "Return a type's method resolution order.", some "($self, /)"⟩,
  ⟨"__subclasses__", .operation, some "Return a list of immediate subclasses.", some "($self, /)"⟩,
  ⟨"__prepare__", .shared,
    some "__prepare__() -> dict\nused to create the namespace for the class statement",
    none⟩,
  ⟨"__instancecheck__", .operation, some "Check if an object is an instance.",
    some "($self, instance, /)"⟩,
  ⟨"__subclasscheck__", .operation, some "Check if a class is a subclass.",
    some "($self, subclass, /)"⟩,
  ⟨"__dir__", .operation, some "Specialized __dir__ implementation for types.", some "($self, /)"⟩,
  ⟨"__sizeof__", .operation, some "Return memory consumption of the type object.",
    some "($self, /)"⟩,
  ⟨"__basicsize__", .field, none, none⟩,
  ⟨"__itemsize__", .field, none, none⟩,
  ⟨"__flags__", .field, none, none⟩,
  ⟨"__weakrefoffset__", .field, none, none⟩,
  ⟨"__base__", .field, none, none⟩,
  ⟨"__dictoffset__", .field, none, none⟩,
  ⟨"__mro__", .field, none, none⟩,
  ⟨"__name__", .property, none, none⟩,
  ⟨"__qualname__", .property, none, none⟩,
  ⟨"__bases__", .property, none, none⟩,
  ⟨"__module__", .property, none, none⟩,
  ⟨"__abstractmethods__", .property, none, none⟩,
  ⟨"__dict__", .property, none, none⟩,
  ⟨"__doc__", .property, none, none⟩,
  ⟨"__text_signature__", .property, none, none⟩,
  ⟨"__annotations__", .property, none, none⟩]

def tupleMembers : List Member := [
  ⟨"__new__", .maker,
    some "Create and return a new object.  See help(type) for accurate signature.",
    some "($type, *args, **kwargs)"⟩,
  ⟨"__repr__", .slot, some "Return repr(self).", some "($self, /)"⟩,
  ⟨"__hash__", .slot, some "Return hash(self).", some "($self, /)"⟩,
  ⟨"__getattribute__", .slot, some "Return getattr(self, name).", some "($self, name, /)"⟩,
  ⟨"__lt__", .slot, some "Return self<value.", some "($self, value, /)"⟩,
  ⟨"__le__", .slot, some "Return self<=value.", some "($self, value, /)"⟩,
  ⟨"__eq__", .slot, some "Return self==value.", some "($self, value, /)"⟩,
  ⟨"__ne__", .slot, some "Return self!=value.", some "($self, value, /)"⟩,
  ⟨"__gt__", .slot, some "Return self>value.", some "($self, value, /)"⟩,
  ⟨"__ge__", .slot, some "Return self>=value.", some "($self, value, /)"⟩,
  ⟨"__iter__", .slot, some "Implement iter(self).", some "($self, /)"⟩,
  ⟨"__len__", .slot, some "Return len(self).", some "($self, /)"⟩,
  ⟨"__getitem__", .slot, some "Return self[key].", some "($self, key, /)"⟩,
  ⟨"__add__", .slot, some "Return self+value.", some "($self, value, /)"⟩,
  ⟨"__mul__", .slot, some "Return self*value.", some "($self, value, /)"⟩,
  ⟨"__rmul__", .slot, some "Return value*self.", some "($self, value, /)"⟩,
  ⟨"__contains__", .slot, some "Return key in self.", some "($self, key, /)"⟩,
  ⟨"__getnewargs__", .operation, none, some "($self, /)"⟩,
  ⟨"index", .operation,
    some "Return first index of value.\n\nRaises ValueError if the value is not present.",
    some "($self, value, start=0, stop=sys.maxsize, /)"⟩,
  ⟨"count", .operation, some "Return number of occurrences of value.", some "($self, value, /)"⟩,
  ⟨"__class_getitem__", .shared, some "See PEP 585", none⟩,
  ⟨"__doc__", .description, none, none⟩]

def absentMembers : List Member := [
  ⟨"__new__", .maker,
    some "Create and return a new object.  See help(type) for accurate signature.",
    some "($type, *args, **kwargs)"⟩,
  ⟨"__repr__", .slot, some "Return repr(self).", some "($self, /)"⟩,
  ⟨"__bool__", .slot, some "True if self else False", some "($self, /)"⟩,
  ⟨"__doc__", .absent, none, none⟩]

def tableMembers : List Member := [
  ⟨"__new__", .maker,
    some "Create and return a new object.  See help(type) for accurate signature.",
    some "($type, *args, **kwargs)"⟩,
  ⟨"__repr__", .slot, some "Return repr(self).", some "($self, /)"⟩,
  ⟨"__str__", .slot, some "Return str(self).", some "($self, /)"⟩,
  ⟨"__getattribute__", .slot, some "Return getattr(self, name).", some "($self, name, /)"⟩,
  ⟨"__lt__", .slot, some "Return self<value.", some "($self, value, /)"⟩,
  ⟨"__le__", .slot, some "Return self<=value.", some "($self, value, /)"⟩,
  ⟨"__eq__", .slot, some "Return self==value.", some "($self, value, /)"⟩,
  ⟨"__ne__", .slot, some "Return self!=value.", some "($self, value, /)"⟩,
  ⟨"__gt__", .slot, some "Return self>value.", some "($self, value, /)"⟩,
  ⟨"__ge__", .slot, some "Return self>=value.", some "($self, value, /)"⟩,
  ⟨"__iter__", .slot, some "Implement iter(self).", some "($self, /)"⟩,
  ⟨"__or__", .slot, some "Return self|value.", some "($self, value, /)"⟩,
  ⟨"__ror__", .slot, some "Return value|self.", some "($self, value, /)"⟩,
  ⟨"__ior__", .slot, some "Return self|=value.", some "($self, value, /)"⟩,
  ⟨"__len__", .slot, some "Return len(self).", some "($self, /)"⟩,
  ⟨"__getitem__", .slot, some "Return self[key].", some "($self, key, /)"⟩,
  ⟨"__contains__", .slot, some "Return key in self.", some "($self, key, /)"⟩,
  ⟨"get", .operation, some "D.get(k[,d]) -> D[k] if k in D, else d.  d defaults to None.", none⟩,
  ⟨"keys", .operation, some "D.keys() -> a set-like object providing a view on D's keys", none⟩,
  ⟨"values", .operation, some "D.values() -> an object providing a view on D's values", none⟩,
  ⟨"items", .operation, some "D.items() -> a set-like object providing a view on D's items", none⟩,
  ⟨"copy", .operation, some "D.copy() -> a shallow copy of D", none⟩,
  ⟨"__class_getitem__", .shared, some "See PEP 585", none⟩,
  ⟨"__reversed__", .operation, some "D.__reversed__() -> reverse iterator", none⟩,
  ⟨"__doc__", .absent, none, none⟩,
  ⟨"__hash__", .absent, none, none⟩]

/-! ### Texts -/

def textMembers : List Member := [
  ⟨"__new__", .maker,
    some "Create and return a new object.  See help(type) for accurate signature.",
    some "($type, *args, **kwargs)"⟩,
  ⟨"__repr__", .slot, some "Return repr(self).", some "($self, /)"⟩,
  ⟨"__hash__", .slot, some "Return hash(self).", some "($self, /)"⟩,
  ⟨"__str__", .slot, some "Return str(self).", some "($self, /)"⟩,
  ⟨"__getattribute__", .slot, some "Return getattr(self, name).", some "($self, name, /)"⟩,
  ⟨"__lt__", .slot, some "Return self<value.", some "($self, value, /)"⟩,
  ⟨"__le__", .slot, some "Return self<=value.", some "($self, value, /)"⟩,
  ⟨"__eq__", .slot, some "Return self==value.", some "($self, value, /)"⟩,
  ⟨"__ne__", .slot, some "Return self!=value.", some "($self, value, /)"⟩,
  ⟨"__gt__", .slot, some "Return self>value.", some "($self, value, /)"⟩,
  ⟨"__ge__", .slot, some "Return self>=value.", some "($self, value, /)"⟩,
  ⟨"__iter__", .slot, some "Implement iter(self).", some "($self, /)"⟩,
  ⟨"__mod__", .slot, some "Return self%value.", some "($self, value, /)"⟩,
  ⟨"__rmod__", .slot, some "Return value%self.", some "($self, value, /)"⟩,
  ⟨"__len__", .slot, some "Return len(self).", some "($self, /)"⟩,
  ⟨"__getitem__", .slot, some "Return self[key].", some "($self, key, /)"⟩,
  ⟨"__add__", .slot, some "Return self+value.", some "($self, value, /)"⟩,
  ⟨"__mul__", .slot, some "Return self*value.", some "($self, value, /)"⟩,
  ⟨"__rmul__", .slot, some "Return value*self.", some "($self, value, /)"⟩,
  ⟨"__contains__", .slot, some "Return key in self.", some "($self, key, /)"⟩,
  ⟨"encode", .operation,
    some ("Encode the string using the codec registered for encoding.\n\n  encoding\n    The " ++
      "encoding in which to encode the string.\n  errors\n    The error handling scheme to " ++
      "use for encoding errors.\n    The default is 'strict' meaning that encoding errors " ++
      "raise a\n    UnicodeEncodeError.  Other possible values are 'ignore', 'replace' " ++
      "and\n    'xmlcharrefreplace' as well as any other name registered with\n    " ++
      "codecs.register_error that can handle UnicodeEncodeErrors."),
    some "($self, /, encoding='utf-8', errors='strict')"⟩,
  ⟨"replace", .operation,
    some ("Return a copy with all occurrences of substring old replaced by new.\n\n  count\n   " ++
      " Maximum number of occurrences to replace.\n    -1 (the default value) means " ++
      "replace all occurrences.\n\nIf the optional argument count is given, only the first " ++
      "count occurrences are\nreplaced."),
    some "($self, old, new, count=-1, /)"⟩,
  ⟨"split", .operation,
    some ("Return a list of the substrings in the string, using sep as the separator string.\n" ++
      "\n  sep\n    The separator used to split the string.\n\n    When set to None (the " ++
      "default value), will split on any whitespace\n    character (including \\n \\r \\t " ++
      "\\f and spaces) and will discard\n    empty strings from the result.\n  maxsplit\n  " ++
      "  Maximum number of splits.\n    -1 (the default value) means no limit.\n\n" ++
      "Splitting starts at the front of the string and works to the end.\n\nNote, " ++
      "str.split() is mainly useful for data that has been intentionally\ndelimited.  With " ++
      "natural text that includes punctuation, consider using\nthe regular expression " ++
      "module."),
    some "($self, /, sep=None, maxsplit=-1)"⟩,
  ⟨"rsplit", .operation,
    some ("Return a list of the substrings in the string, using sep as the separator string.\n" ++
      "\n  sep\n    The separator used to split the string.\n\n    When set to None (the " ++
      "default value), will split on any whitespace\n    character (including \\n \\r \\t " ++
      "\\f and spaces) and will discard\n    empty strings from the result.\n  maxsplit\n  " ++
      "  Maximum number of splits.\n    -1 (the default value) means no limit.\n\n" ++
      "Splitting starts at the end of the string and works to the front."),
    some "($self, /, sep=None, maxsplit=-1)"⟩,
  ⟨"join", .operation,
    some ("Concatenate any number of strings.\n\nThe string whose method is called is inserted " ++
      "in between each given string.\nThe result is returned as a new string.\n\nExample: " ++
      "'.'.join(['ab', 'pq', 'rs']) -> 'ab.pq.rs'"),
    some "($self, iterable, /)"⟩,
  ⟨"capitalize", .operation,
    some ("Return a capitalized version of the string.\n\nMore specifically, make the first " ++
      "character have upper case and the rest lower\ncase."),
    some "($self, /)"⟩,
  ⟨"casefold", .operation, some "Return a version of the string suitable for caseless comparisons.",
    some "($self, /)"⟩,
  ⟨"title", .operation,
    some ("Return a version of the string where each word is titlecased.\n\nMore specifically, " ++
      "words start with uppercased characters and all remaining\ncased characters have " ++
      "lower case."),
    some "($self, /)"⟩,
  ⟨"center", .operation,
    some ("Return a centered string of length width.\n\nPadding is done using the specified " ++
      "fill character (default is a space)."),
    some "($self, width, fillchar=' ', /)"⟩,
  ⟨"count", .operation,
    some ("S.count(sub[, start[, end]]) -> int\n\nReturn the number of non-overlapping " ++
      "occurrences of substring sub in\nstring S[start:end].  Optional arguments start and " ++
      "end are\ninterpreted as in slice notation."),
    none⟩,
  ⟨"expandtabs", .operation,
    some ("Return a copy where all tab characters are expanded using spaces.\n\nIf tabsize is " ++
      "not given, a tab size of 8 characters is assumed."),
    some "($self, /, tabsize=8)"⟩,
  ⟨"find", .operation,
    some ("S.find(sub[, start[, end]]) -> int\n\nReturn the lowest index in S where substring " ++
      "sub is found,\nsuch that sub is contained within S[start:end].  Optional\narguments " ++
      "start and end are interpreted as in slice notation.\n\nReturn -1 on failure."),
    none⟩,
  ⟨"partition", .operation,
    some ("Partition the string into three parts using the given separator.\n\nThis will " ++
      "search for the separator in the string.  If the separator is found,\nreturns a " ++
      "3-tuple containing the part before the separator, the separator\nitself, and the " ++
      "part after it.\n\nIf the separator is not found, returns a 3-tuple containing the " ++
      "original string\nand two empty strings."),
    some "($self, sep, /)"⟩,
  ⟨"index", .operation,
    some ("S.index(sub[, start[, end]]) -> int\n\nReturn the lowest index in S where substring " ++
      "sub is found,\nsuch that sub is contained within S[start:end].  Optional\narguments " ++
      "start and end are interpreted as in slice notation.\n\nRaises ValueError when the " ++
      "substring is not found."),
    none⟩,
  ⟨"ljust", .operation,
    some ("Return a left-justified string of length width.\n\nPadding is done using the " ++
      "specified fill character (default is a space)."),
    some "($self, width, fillchar=' ', /)"⟩,
  ⟨"lower", .operation, some "Return a copy of the string converted to lowercase.",
    some "($self, /)"⟩,
  ⟨"lstrip", .operation,
    some ("Return a copy of the string with leading whitespace removed.\n\nIf chars is given " ++
      "and not None, remove characters in chars instead."),
    some "($self, chars=None, /)"⟩,
  ⟨"rfind", .operation,
    some ("S.rfind(sub[, start[, end]]) -> int\n\nReturn the highest index in S where " ++
      "substring sub is found,\nsuch that sub is contained within S[start:end].  Optional\n" ++
      "arguments start and end are interpreted as in slice notation.\n\nReturn -1 on " ++
      "failure."),
    none⟩,
  ⟨"rindex", .operation,
    some ("S.rindex(sub[, start[, end]]) -> int\n\nReturn the highest index in S where " ++
      "substring sub is found,\nsuch that sub is contained within S[start:end].  Optional\n" ++
      "arguments start and end are interpreted as in slice notation.\n\nRaises ValueError " ++
      "when the substring is not found."),
    none⟩,
  ⟨"rjust", .operation,
    some ("Return a right-justified string of length width.\n\nPadding is done using the " ++
      "specified fill character (default is a space)."),
    some "($self, width, fillchar=' ', /)"⟩,
  ⟨"rstrip", .operation,
    some ("Return a copy of the string with trailing whitespace removed.\n\nIf chars is given " ++
      "and not None, remove characters in chars instead."),
    some "($self, chars=None, /)"⟩,
  ⟨"rpartition", .operation,
    some ("Partition the string into three parts using the given separator.\n\nThis will " ++
      "search for the separator in the string, starting at the end. If\nthe separator is " ++
      "found, returns a 3-tuple containing the part before the\nseparator, the separator " ++
      "itself, and the part after it.\n\nIf the separator is not found, returns a 3-tuple " ++
      "containing two empty strings\nand the original string."),
    some "($self, sep, /)"⟩,
  ⟨"splitlines", .operation,
    some ("Return a list of the lines in the string, breaking at line boundaries.\n\nLine " ++
      "breaks are not included in the resulting list unless keepends is given and\ntrue."),
    some "($self, /, keepends=False)"⟩,
  ⟨"strip", .operation,
    some ("Return a copy of the string with leading and trailing whitespace removed.\n\nIf " ++
      "chars is given and not None, remove characters in chars instead."),
    some "($self, chars=None, /)"⟩,
  ⟨"swapcase", .operation,
    some "Convert uppercase characters to lowercase and lowercase characters to uppercase.",
    some "($self, /)"⟩,
  ⟨"translate", .operation,
    some ("Replace each character in the string using the given translation table.\n\n  table\n" ++
      "    Translation table, which must be a mapping of Unicode ordinals to\n    Unicode " ++
      "ordinals, strings, or None.\n\nThe table must implement lookup/indexing via " ++
      "__getitem__, for instance a\ndictionary or list.  If this operation raises " ++
      "LookupError, the character is\nleft untouched.  Characters mapped to None are " ++
      "deleted."),
    some "($self, table, /)"⟩,
  ⟨"upper", .operation, some "Return a copy of the string converted to uppercase.",
    some "($self, /)"⟩,
  ⟨"startswith", .operation,
    some ("S.startswith(prefix[, start[, end]]) -> bool\n\nReturn True if S starts with the " ++
      "specified prefix, False otherwise.\nWith optional start, test S beginning at that " ++
      "position.\nWith optional end, stop comparing S at that position.\nprefix can also " ++
      "be a tuple of strings to try."),
    none⟩,
  ⟨"endswith", .operation,
    some ("S.endswith(suffix[, start[, end]]) -> bool\n\nReturn True if S ends with the " ++
      "specified suffix, False otherwise.\nWith optional start, test S beginning at that " ++
      "position.\nWith optional end, stop comparing S at that position.\nsuffix can also " ++
      "be a tuple of strings to try."),
    none⟩,
  ⟨"removeprefix", .operation,
    some ("Return a str with the given prefix string removed if present.\n\nIf the string " ++
      "starts with the prefix string, return string[len(prefix):].\nOtherwise, return a " ++
      "copy of the original string."),
    some "($self, prefix, /)"⟩,
  ⟨"removesuffix", .operation,
    some ("Return a str with the given suffix string removed if present.\n\nIf the string ends " ++
      "with the suffix string and that suffix is not empty,\nreturn string[:-len(suffix)]. " ++
      "Otherwise, return a copy of the original\nstring."),
    some "($self, suffix, /)"⟩,
  ⟨"isascii", .operation,
    some ("Return True if all characters in the string are ASCII, False otherwise.\n\nASCII " ++
      "characters have code points in the range U+0000-U+007F.\nEmpty string is ASCII too."),
    some "($self, /)"⟩,
  ⟨"islower", .operation,
    some ("Return True if the string is a lowercase string, False otherwise.\n\nA string is " ++
      "lowercase if all cased characters in the string are lowercase and\nthere is at " ++
      "least one cased character in the string."),
    some "($self, /)"⟩,
  ⟨"isupper", .operation,
    some ("Return True if the string is an uppercase string, False otherwise.\n\nA string is " ++
      "uppercase if all cased characters in the string are uppercase and\nthere is at " ++
      "least one cased character in the string."),
    some "($self, /)"⟩,
  ⟨"istitle", .operation,
    some ("Return True if the string is a title-cased string, False otherwise.\n\nIn a " ++
      "title-cased string, upper- and title-case characters may only\nfollow uncased " ++
      "characters and lowercase characters only cased ones."),
    some "($self, /)"⟩,
  ⟨"isspace", .operation,
    some ("Return True if the string is a whitespace string, False otherwise.\n\nA string is " ++
      "whitespace if all characters in the string are whitespace and there\nis at least " ++
      "one character in the string."),
    some "($self, /)"⟩,
  ⟨"isdecimal", .operation,
    some ("Return True if the string is a decimal string, False otherwise.\n\nA string is a " ++
      "decimal string if all characters in the string are decimal and\nthere is at least " ++
      "one character in the string."),
    some "($self, /)"⟩,
  ⟨"isdigit", .operation,
    some ("Return True if the string is a digit string, False otherwise.\n\nA string is a " ++
      "digit string if all characters in the string are digits and there\nis at least one " ++
      "character in the string."),
    some "($self, /)"⟩,
  ⟨"isnumeric", .operation,
    some ("Return True if the string is a numeric string, False otherwise.\n\nA string is " ++
      "numeric if all characters in the string are numeric and there is at\nleast one " ++
      "character in the string."),
    some "($self, /)"⟩,
  ⟨"isalpha", .operation,
    some ("Return True if the string is an alphabetic string, False otherwise.\n\nA string is " ++
      "alphabetic if all characters in the string are alphabetic and there\nis at least " ++
      "one character in the string."),
    some "($self, /)"⟩,
  ⟨"isalnum", .operation,
    some ("Return True if the string is an alpha-numeric string, False otherwise.\n\nA string " ++
      "is alpha-numeric if all characters in the string are alpha-numeric and\nthere is at " ++
      "least one character in the string."),
    some "($self, /)"⟩,
  ⟨"isidentifier", .operation,
    some ("Return True if the string is a valid Python identifier, False otherwise.\n\nCall " ++
      "keyword.iskeyword(s) to test whether string s is a reserved identifier,\nsuch as " ++
      "\"def\" or \"class\"."),
    some "($self, /)"⟩,
  ⟨"isprintable", .operation,
    some ("Return True if the string is printable, False otherwise.\n\nA string is printable " ++
      "if all of its characters are considered printable in\nrepr() or if it is empty."),
    some "($self, /)"⟩,
  ⟨"zfill", .operation,
    some ("Pad a numeric string with zeros on the left, to fill a field of the given width.\n\n" ++
      "The string is never truncated."),
    some "($self, width, /)"⟩,
  ⟨"format", .operation,
    some ("S.format(*args, **kwargs) -> str\n\nReturn a formatted version of S, using " ++
      "substitutions from args and kwargs.\nThe substitutions are identified by braces " ++
      "('\x7b' and '\x7d')."),
    none⟩,
  ⟨"format_map", .operation,
    some ("S.format_map(mapping) -> str\n\nReturn a formatted version of S, using " ++
      "substitutions from mapping.\nThe substitutions are identified by braces ('\x7b' and " ++
      "'\x7d')."),
    none⟩,
  ⟨"__format__", .operation,
    some "Return a formatted version of the string as described by format_spec.",
    some "($self, format_spec, /)"⟩,
  ⟨"maketrans", .free,
    some ("Return a translation table usable for str.translate().\n\nIf there is only one " ++
      "argument, it must be a dictionary mapping Unicode\nordinals (integers) or " ++
      "characters to Unicode ordinals, strings or None.\nCharacter keys will be then " ++
      "converted to ordinals.\nIf there are two arguments, they must be strings of equal " ++
      "length, and\nin the resulting dictionary, each character in x will be mapped to " ++
      "the\ncharacter at the same position in y. If there is a third argument, it\nmust be " ++
      "a string, whose characters will be mapped to None in the result."),
    some "(x, y=<unrepresentable>, z=<unrepresentable>, /)"⟩,
  ⟨"__sizeof__", .operation, some "Return the size of the string in memory, in bytes.",
    some "($self, /)"⟩,
  ⟨"__getnewargs__", .operation, none, none⟩,
  ⟨"__doc__", .description, none, none⟩]

end SceneMarkup.Log.Thing

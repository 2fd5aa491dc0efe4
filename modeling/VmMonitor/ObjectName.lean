/-!
# Names of management objects

An object name is a domain, a colon and a list of keys, such as `java.lang:type=Memory`. Keys are
bound by `key=value` items between commas; the first binding of a key counts and items without an
equals sign bind nothing. A key list that is `*`, or that ends in `,*`, makes the name a pattern: it
matches every name of the same domain that has all of the pattern's bindings.
-/

namespace VmMonitor

/-- The pieces of a text between the occurrences of a character. -/
def splitAll (sep : Char) : List Char → List (List Char)
  | [] => [[]]
  | c :: cs =>
    if c = sep then [] :: splitAll sep cs
    else match splitAll sep cs with
      | piece :: pieces => (c :: piece) :: pieces
      | [] => [[c]]

/-- The text before and after the first occurrence of a character. -/
def splitFirst? (sep : Char) : List Char → Option (List Char × List Char)
  | [] => none
  | c :: cs =>
    if c = sep then some ([], cs)
    else (splitFirst? sep cs).map fun (a, b) => (c :: a, b)

/-- The name of a management object. -/
structure ObjectName where
  domain : List Char
  /-- The text behind the first colon. -/
  keys : List Char
  domain_ne : domain ≠ []
  colon_notMem : ':' ∉ domain
  keys_ne : keys ≠ []
  deriving DecidableEq

namespace ObjectName

/-- Reads a name: there is a colon, and text on both sides of the first one. -/
def ofChars? (cs : List Char) : Option ObjectName :=
  let domain := cs.takeWhile (· ≠ ':')
  match cs.dropWhile (· ≠ ':') with
  | [] => none
  | _ :: keys =>
    if h : domain ≠ [] ∧ keys ≠ [] then
      some ⟨domain, keys, h.1,
        fun hc => by simpa using List.all_eq_true.1 List.all_takeWhile _ hc, h.2⟩
    else none

def ofString? (s : String) : Option ObjectName := ofChars? s.toList

def toChars (o : ObjectName) : List Char := o.domain ++ ':' :: o.keys

/-- The text of a name. -/
def text (o : ObjectName) : String := String.ofList o.toChars

/-! ### The platform's own objects -/

/-- A name in the domain of the platform. -/
def platform (key : Char) (keys : List Char) : ObjectName where
  domain := ['j', 'a', 'v', 'a', '.', 'l', 'a', 'n', 'g']
  keys := key :: keys
  domain_ne := by simp
  colon_notMem := by simp
  keys_ne := by simp

def memory : ObjectName := platform 't' "ype=Memory".toList

def runtime : ObjectName := platform 't' "ype=Runtime".toList

def threading : ObjectName := platform 't' "ype=Threading".toList

def classLoading : ObjectName := platform 't' "ype=ClassLoading".toList

def operatingSystem : ObjectName := platform 't' "ype=OperatingSystem".toList

/-- The pattern of all collectors. -/
def garbageCollectors : ObjectName := platform 't' "ype=GarbageCollector,*".toList

/-- The collector of a name. -/
def garbageCollector (name : String) : ObjectName :=
  platform 't' ("ype=GarbageCollector,name=".toList ++ name.toList)

/-! ### Keys and patterns -/

/-- The bindings of the key list, in its order. -/
def bindings (o : ObjectName) : List (List Char × List Char) :=
  (splitAll ',' o.keys).filterMap (splitFirst? '=')

/-- The value that a key is bound to first. -/
def binding? (o : ObjectName) (key : List Char) : Option (List Char) :=
  (o.bindings.find? fun b => b.1 = key).map (·.2)

/-- The value of a key as text. -/
def keyProperty? (o : ObjectName) (key : String) : Option String :=
  (o.binding? key.toList).map String.ofList

/-- Whether the name stands for every name with its bindings. -/
def isPattern (o : ObjectName) : Bool := o.keys = ['*'] || [',', '*'].isSuffixOf o.keys

/-- Whether a name, perhaps a pattern, stands for another one. -/
def isMatch (o other : ObjectName) : Bool :=
  if o.isPattern then
    decide (o.domain = other.domain) && o.bindings.all fun b => other.binding? b.1 = some b.2
  else decide (o = other)

end ObjectName

end VmMonitor

import ObjectWatch.Value.Text

/-!
What the filters read off a value: its identity, its labels, whether it is a service, and its selector.
The value may be a typed object, a decoded manifest or any object with the attributes of one; a value
that has no such part simply lacks it.

`identity?`, `labels` and `selector?` write out every text. `readIdentity`, `readLabels` and `readSelector`
fail, as the program does, where there is no text of what they read.
-/

namespace ObjectWatch.Value

def serviceKind : String := "Service"

/-- The identity in the metadata of a value; without a name that counts there is none. -/
def identity? (v : Value) : Option Identity :=
  let metadata := v.get "metadata"
  let name := metadata.get "name"
  if name.truthy then
    let ns := metadata.get "namespace"
    some ⟨if ns.truthy then ns.text else "", name.text⟩
  else none

/-- The labels of a value: those of a typed object as they are, any others in text form. -/
def labels : Value → List (Value × Value)
  | object _ _ labels _ | service _ _ labels _ _ => labels
  | v => ((v.get "metadata").get "labels").labelTable

def isService (v : Value) : Bool :=
  v.get "kind" == str serviceKind

/-- The selector of a value: that of a typed service as it is, that of any other value of its kind in
text form. -/
def selector? : Value → Option (List (Value × Value))
  | service _ _ _ _ selector => some selector
  | v => if v.isService then some ((v.get "spec").get "selector").labelTable else none

/-! ### Parts without a text -/

def readIdentity (v : Value) : Except TextError (Option Identity) :=
  let metadata := v.get "metadata"
  let name := metadata.get "name"
  if name.truthy then do
    let ns ← ((metadata.get "namespace").orElse (str "")).text?
    let name ← name.text?
    .ok (some ⟨ns, name⟩)
  else .ok none

def readLabels : Value → Except TextError (List (Value × Value))
  | object _ _ labels _ | service _ _ labels _ _ => .ok labels
  | v => ((v.get "metadata").get "labels").labelTable?

def readSelector : Value → Except TextError (Option (List (Value × Value)))
  | service _ _ _ _ selector => .ok (some selector)
  | v => if v.isService then (((v.get "spec").get "selector").labelTable?).map some else .ok none

end ObjectWatch.Value

/-!
# Deep linkers

A deep linker keeps texts under keys in a place that outlives the page, such as the fragment of its
address.

* `Write`          a text to keep, and how;
* `DeepLinker`     what every linker can do;
* `Remembered`     the simplest of them, one text for all keys.
-/

namespace TabShell

/-- a value under a key; `replace` asks for no new entry in the history, and a value equal to
`default` stands for the key being absent -/
structure Write where
  key : String
  value : String
  replace : Bool
  default : String
  deriving Repr, DecidableEq

/-- a place for texts under keys -/
class DeepLinker (L : Type) where
  /-- the text under a key, empty if there is none -/
  get : L → String → String
  set : L → Write → L
  /-- a change of the place by someone else -/
  edit : L → String → L

/-- one text, whatever the key -/
structure Remembered where
  text : String
  deriving Repr, DecidableEq

instance : DeepLinker Remembered where
  get l _ := l.text
  set _ w := ⟨w.value⟩
  edit _ text := ⟨text⟩

/-- one of two linkers -/
instance {L M : Type} [DeepLinker L] [DeepLinker M] : DeepLinker (L ⊕ M) where
  get
    | .inl l, key => DeepLinker.get l key
    | .inr m, key => DeepLinker.get m key
  set
    | .inl l, w => .inl (DeepLinker.set l w)
    | .inr m, w => .inr (DeepLinker.set m w)
  edit
    | .inl l, text => .inl (DeepLinker.edit l text)
    | .inr m, text => .inr (DeepLinker.edit m text)

end TabShell

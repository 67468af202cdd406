import LabelPress.Yaml.Token

/-!
# Nodes

The tree of scalars, sequences and mappings that the tokens of a YAML text form.  Every
reading takes tokens off the front, and what is left is never longer than what there was,
so reading always ends.
-/

namespace LabelPress
namespace Yaml

/-- A node of a YAML document. -/
inductive Node where
  /-- A scalar; a plain one is not quoted. -/
  | scalar (text : Text) (plain : Bool)
  /-- The items of a sequence. -/
  | sequence (items : List Node)
  /-- The entries of a mapping. -/
  | mapping (entries : List (Node × Node))

namespace Node

/-- The node of a place where nothing is written. -/
def empty : Node :=
  .scalar [] true

/-- A value read from the front of some tokens, and fewer tokens than before. -/
structure Taken (α : Type) (tokens : List Token) where
  /-- The value. -/
  value : α
  /-- The tokens that are left. -/
  rest : List Token
  /-- At least one token was taken. -/
  shorter : rest.length < tokens.length

/-- A value read from the front of some tokens, and not more tokens than before. -/
structure Passed (α : Type) (tokens : List Token) where
  /-- The value. -/
  value : α
  /-- The tokens that are left. -/
  rest : List Token
  /-- No token was added. -/
  bounded : rest.length ≤ tokens.length

/-- The fault at tokens that do not continue as they should. -/
def faultAt (tokens : List Token) : Fault :=
  match tokens with
  | .broken fault :: _ => fault
  | _ => .unexpectedToken

/-- The tokens before which an item of a block may be missing. -/
def blockItemEnds : List Token := [.blockEntry, .blockEnd]

/-- The tokens before which an item of a block without its own indentation may be missing. -/
def looseItemEnds : List Token := [.blockEntry, .key, .value, .blockEnd]

/-- The tokens before which a key or a value of a block may be missing. -/
def blockPairEnds : List Token := [.key, .value, .blockEnd]

/-- The tokens after the comma that every item inside brackets but the first one needs. -/
def afterComma
    (first : Bool)
    (tokens : List Token) : Except Fault (Passed Unit tokens) :=
  if first then
    .ok ⟨(), tokens, Nat.le_refl _⟩
  else
    match tokens with
    | .flowEntry :: rest => .ok ⟨(), rest, Nat.le_succ _⟩
    | other => .error (faultAt other)

mutual

/-- Read a node: a block if `block` holds, items of no indentation if `loose` does. -/
def take
    (block loose : Bool)
    (tokens : List Token) : Except Fault (Taken Node tokens) :=
  match tokens with
  | .scalar text plain :: rest => .ok ⟨.scalar text plain, rest, Nat.lt_succ_self _⟩
  | .flowSequence :: rest => do
      let ⟨items, left, shorter⟩ ← takeFlowItems true rest
      return ⟨.sequence items, left, by rw [List.length_cons]; omega⟩
  | .flowMapping :: rest => do
      let ⟨entries, left, shorter⟩ ← takeFlowPairs true rest
      return ⟨.mapping entries, left, by rw [List.length_cons]; omega⟩
  | .blockEntry :: rest =>
      if loose then do
        let ⟨items, left, bounded⟩ ← takeLooseItems rest
        return ⟨.sequence items, left, by rw [List.length_cons]; omega⟩
      else
        .error .unexpectedToken
  | .blockSequence :: rest =>
      if block then do
        let ⟨items, left, shorter⟩ ← takeBlockItems rest
        return ⟨.sequence items, left, by rw [List.length_cons]; omega⟩
      else
        .error .unexpectedToken
  | .blockMapping :: rest =>
      if block then do
        let ⟨entries, left, shorter⟩ ← takeBlockPairs rest
        return ⟨.mapping entries, left, by rw [List.length_cons]; omega⟩
      else
        .error .unexpectedToken
  | other => .error (faultAt other)
termination_by (tokens.length, 0)

/-- Read a node, or an empty one before one of some tokens. -/
def takeOr
    (ends : List Token)
    (block loose : Bool)
    (tokens : List Token) : Except Fault (Passed Node tokens) :=
  if tokens.head?.any ends.contains then
    .ok ⟨empty, tokens, Nat.le_refl _⟩
  else do
    let ⟨node, left, shorter⟩ ← take block loose tokens
    return ⟨node, left, Nat.le_of_lt shorter⟩
termination_by (tokens.length, 1)

/-- Read the value of a key, which is empty without a colon. -/
def takeValue
    (ends : List Token)
    (block loose : Bool)
    (tokens : List Token) : Except Fault (Passed Node tokens) :=
  match tokens with
  | .value :: rest => do
      let ⟨node, left, bounded⟩ ← takeOr ends block loose rest
      return ⟨node, left, by rw [List.length_cons]; omega⟩
  | other => .ok ⟨empty, other, Nat.le_refl _⟩
termination_by (tokens.length, 2)

/-- Read the items of a sequence by indentation. -/
def takeBlockItems (tokens : List Token) : Except Fault (Taken (List Node) tokens) :=
  match tokens with
  | .blockEntry :: rest => do
      let ⟨item, afterItem, itemBounded⟩ ← takeOr blockItemEnds true false rest
      let ⟨items, left, shorter⟩ ← takeBlockItems afterItem
      return ⟨item :: items, left, by rw [List.length_cons]; omega⟩
  | .blockEnd :: rest => .ok ⟨[], rest, Nat.lt_succ_self _⟩
  | other => .error (faultAt other)
termination_by (tokens.length, 2)

/-- Read the items of a sequence behind its first dash that is no deeper than its key. -/
def takeLooseItems (tokens : List Token) : Except Fault (Passed (List Node) tokens) := do
  let ⟨item, afterItem, itemBounded⟩ ← takeOr looseItemEnds true false tokens
  match afterItem, itemBounded with
  | .blockEntry :: rest, itemBounded =>
      let ⟨items, left, bounded⟩ ← takeLooseItems rest
      return ⟨item :: items, left, by rw [List.length_cons] at itemBounded; omega⟩
  | other, itemBounded => return ⟨[item], other, itemBounded⟩
termination_by (tokens.length, 2)
decreasing_by all_goals grind

/-- Read the entries of a mapping by indentation. -/
def takeBlockPairs
    (tokens : List Token) : Except Fault (Taken (List (Node × Node)) tokens) :=
  match tokens with
  | .key :: rest => do
      let ⟨key, afterKey, keyBounded⟩ ← takeOr blockPairEnds true true rest
      let ⟨value, afterValue, valueBounded⟩ ← takeValue blockPairEnds true true afterKey
      let ⟨entries, left, shorter⟩ ← takeBlockPairs afterValue
      return ⟨(key, value) :: entries, left, by rw [List.length_cons]; omega⟩
  | .blockEnd :: rest => .ok ⟨[], rest, Nat.lt_succ_self _⟩
  | other => .error (faultAt other)
termination_by (tokens.length, 2)

/-- Read the items of a sequence in brackets; one of them may be a single entry. -/
def takeFlowItems
    (first : Bool)
    (tokens : List Token) : Except Fault (Taken (List Node) tokens) :=
  match tokens with
  | .flowSequenceEnd :: rest => .ok ⟨[], rest, Nat.lt_succ_self _⟩
  | tokens => do
      let ⟨_, next, nextBounded⟩ ← afterComma first tokens
      match next, nextBounded with
      | .flowSequenceEnd :: rest, nextBounded =>
          return ⟨[], rest, by rw [List.length_cons] at nextBounded; omega⟩
      | .key :: rest, nextBounded =>
          let ⟨key, afterKey, keyBounded⟩ ←
            takeOr [.value, .flowEntry, .flowSequenceEnd] false false rest
          let ⟨value, afterValue, valueBounded⟩ ←
            takeValue [.flowEntry, .flowSequenceEnd] false false afterKey
          let ⟨items, left, shorter⟩ ← takeFlowItems false afterValue
          return ⟨.mapping [(key, value)] :: items, left, by
            rw [List.length_cons] at nextBounded; omega⟩
      | other, nextBounded =>
          let ⟨item, afterItem, itemShorter⟩ ← take false false other
          let ⟨items, left, shorter⟩ ← takeFlowItems false afterItem
          return ⟨item :: items, left, by omega⟩
termination_by (tokens.length, 3)
decreasing_by all_goals grind

/-- Read the entries of a mapping in braces; one without a colon has an empty value. -/
def takeFlowPairs
    (first : Bool)
    (tokens : List Token) : Except Fault (Taken (List (Node × Node)) tokens) :=
  match tokens with
  | .flowMappingEnd :: rest => .ok ⟨[], rest, Nat.lt_succ_self _⟩
  | tokens => do
      let ⟨_, next, nextBounded⟩ ← afterComma first tokens
      match next, nextBounded with
      | .flowMappingEnd :: rest, nextBounded =>
          return ⟨[], rest, by rw [List.length_cons] at nextBounded; omega⟩
      | .key :: rest, nextBounded =>
          let ⟨key, afterKey, keyBounded⟩ ←
            takeOr [.value, .flowEntry, .flowMappingEnd] false false rest
          let ⟨value, afterValue, valueBounded⟩ ←
            takeValue [.flowEntry, .flowMappingEnd] false false afterKey
          let ⟨entries, left, shorter⟩ ← takeFlowPairs false afterValue
          return ⟨(key, value) :: entries, left, by rw [List.length_cons] at nextBounded; omega⟩
      | other, nextBounded =>
          let ⟨key, afterKey, keyShorter⟩ ← take false false other
          let ⟨entries, left, shorter⟩ ← takeFlowPairs false afterKey
          return ⟨(key, empty) :: entries, left, by omega⟩
termination_by (tokens.length, 3)
decreasing_by all_goals grind

end

/-- Only the end of the text may follow a document, and markers of its end. -/
def endOfDocument : List Token → Except Fault Unit
  | .documentEnd :: rest => endOfDocument rest
  | [.streamEnd] => .ok ()
  | .documentStart :: _ => .error .severalDocuments
  | other => .error (faultAt other)

/-- The node of a document that follows its marker. -/
def ofContent (tokens : List Token) : Except Fault Node := do
  let ⟨node, left, _⟩ ← takeOr [.documentStart, .documentEnd, .streamEnd] true false tokens
  endOfDocument left
  return node

/-- The node of the only document of some tokens; nothing if they hold no document. -/
def ofTokens : List Token → Except Fault (Option Node)
  | [.streamEnd] => .ok none
  | .documentStart :: rest => return some (← ofContent rest)
  | tokens => do
      let ⟨node, left, _⟩ ← take true false tokens
      endOfDocument left
      return some node

end Node
end Yaml
end LabelPress

import ClusterConfig.Yaml.Fault
import ClusterConfig.Yaml.Node

set_option autoImplicit false

/-!
# Documents

The grammar of nodes over tokens. Each function reads a phrase from the beginning of a list of tokens
and returns it with the tokens after it, which are fewer. Where one phrase begins with another one, no token
is used up in between, so the measure also counts how far a phrase is from its first token.
-/

namespace ClusterConfig.Yaml

abbrev TagHandles := List (String × List UInt8)

def standardHandles : TagHandles :=
  [("!", "!".toUTF8.toList), ("!!", "tag:yaml.org,2002:".toUTF8.toList)]

/-- The tag that a handle and a suffix denote. Without a handle the suffix is the tag. -/
def expandTag (handles : TagHandles) (handle : String) (suffix : List UInt8) :
    Except Fault (List UInt8) :=
  if handle = "" then .ok suffix
  else
    match handles.lookup handle with
    | some expansion => .ok (expansion ++ suffix)
    | none => .error .grammar

/-- A phrase and the tokens after it, at most as many as `tokens`. -/
abbrev Read (α : Type) (tokens : List Token) : Type :=
  Except Fault (α × { rest : List Token // rest.length ≤ tokens.length })

def readProperties (handles : TagHandles) : (tokens : List Token) → Read (Properties String) tokens
  | .anchor name :: .tag handle suffix :: rest => do
      let tag ← expandTag handles handle suffix
      pure (⟨some name, some tag⟩, ⟨rest, by simp; omega⟩)
  | .tag handle suffix :: .anchor name :: rest => do
      let tag ← expandTag handles handle suffix
      pure (⟨some name, some tag⟩, ⟨rest, by simp; omega⟩)
  | .anchor name :: rest => .ok (⟨some name, none⟩, ⟨rest, by simp⟩)
  | .tag handle suffix :: rest => do
      let tag ← expandTag handles handle suffix
      pure (⟨none, some tag⟩, ⟨rest, by simp⟩)
  | tokens => .ok (.absent, ⟨tokens, Nat.le_refl _⟩)

/-- The properties of a scalar: the tag that is a mere exclamation mark says nothing about it. -/
def Properties.ofScalar (properties : Properties String) : Properties String :=
  if properties.tag = some "!".toUTF8.toList then { properties with tag := none } else properties

/-- Where a node stands. In a flow collection no block collection may begin, and in a block mapping the
entries of a sequence need not be indented. -/
inductive Context where
  | flow
  | block
  | blockMapping
deriving DecidableEq, Repr

/-- The tokens that stand for missing content of an entry, a key or a value of a collection. -/
inductive Part where
  | sequenceEntry
  | unindentedEntry
  | mappingPart
  | flowEntry
  | flowKey
  | flowValue

def Part.stops : Part → List Token
  | .sequenceEntry => [.blockEntry, .blockEnd]
  | .unindentedEntry => [.blockEntry, .key, .value, .blockEnd]
  | .mappingPart => [.key, .value, .blockEnd]
  | .flowEntry => [.flowEntry, .flowSequenceEnd]
  | .flowKey => [.value, .flowEntry, .flowMappingEnd]
  | .flowValue => [.flowEntry, .flowMappingEnd]

def Part.context : Part → Context
  | .sequenceEntry | .unindentedEntry => .block
  | .mappingPart => .blockMapping
  | .flowEntry | .flowKey | .flowValue => .flow

/-- A phrase and the tokens after it, fewer than `tokens`. -/
abbrev ReadSome (α : Type) (tokens : List Token) : Type :=
  Except Fault (α × { rest : List Token // rest.length < tokens.length })

/-- The node where `content` begins with no content of a node: properties before it belong to an empty
scalar. -/
def readMissing (properties : Properties String) {tokens : List Token} (content : List Token)
    (_ : content.length ≤ tokens.length) : ReadSome (Node String) tokens :=
  if hasProperties : content.length < tokens.length then
    .ok (.scalar properties .plain "", ⟨content, hasProperties⟩)
  else .error .grammar

mutual

/-- Read a node. Properties without content after them belong to an empty scalar. -/
def readNode (handles : TagHandles) (context : Context) (tokens : List Token) :
    ReadSome (Node String) tokens :=
  match tokens with
  | .alias name :: rest => .ok (.alias name, ⟨rest, by simp⟩)
  | tokens =>
      match readProperties handles tokens with
      | .error fault => .error fault
      | .ok (properties, ⟨content, shorter⟩) =>
          match content with
          | .scalar style text :: rest =>
              .ok (.scalar properties.ofScalar style text, ⟨rest, by simp at shorter; omega⟩)
          | .flowSequenceStart :: rest =>
              match readFlowItems handles rest with
              | .error fault => .error fault
              | .ok (items, ⟨after, fewer⟩) =>
                  .ok (.sequence properties items, ⟨after, by simp at shorter; omega⟩)
          | .flowMappingStart :: rest =>
              match readFlowEntries handles rest with
              | .error fault => .error fault
              | .ok (entries, ⟨after, fewer⟩) =>
                  .ok (.mapping properties entries, ⟨after, by simp at shorter; omega⟩)
          | .blockSequenceStart :: rest =>
              if context = .flow then readMissing properties (.blockSequenceStart :: rest) shorter
              else
                match readBlockItems handles rest with
                | .error fault => .error fault
                | .ok (items, ⟨after, fewer⟩) =>
                    .ok (.sequence properties items, ⟨after, by simp at shorter; omega⟩)
          | .blockMappingStart :: rest =>
              if context = .flow then readMissing properties (.blockMappingStart :: rest) shorter
              else
                match readBlockEntries handles rest with
                | .error fault => .error fault
                | .ok (entries, ⟨after, fewer⟩) =>
                    .ok (.mapping properties entries, ⟨after, by simp at shorter; omega⟩)
          | .blockEntry :: rest =>
              if context = .blockMapping then
                match readPart handles .unindentedEntry rest with
                | .error fault => .error fault
                | .ok (first, ⟨others, fewer⟩) =>
                    have _ : others.length < tokens.length := by simp at shorter; omega
                    match readUnindentedItems handles others with
                    | .error fault => .error fault
                    | .ok (items, ⟨after, last⟩) =>
                        .ok (.sequence properties (first :: items),
                          ⟨after, by simp at shorter; omega⟩)
              else readMissing properties (.blockEntry :: rest) shorter
          | content => readMissing properties content shorter
termination_by 4 * tokens.length + 1
decreasing_by all_goals simp only [List.length_cons] at *; omega

def readPart (handles : TagHandles) (part : Part) (tokens : List Token) : Read (Node String) tokens :=
  if tokens.head?.any part.stops.contains then .ok (.empty, ⟨tokens, Nat.le_refl _⟩)
  else
    match readNode handles part.context tokens with
    | .error fault => .error fault
    | .ok (node, ⟨after, fewer⟩) => .ok (node, ⟨after, Nat.le_of_lt fewer⟩)
termination_by 4 * tokens.length + 2

/-- Read the value of a mapping entry, which may be missing together with its colon. -/
def readValue (handles : TagHandles) (part : Part) (tokens : List Token) : Read (Node String) tokens :=
  match tokens with
  | .value :: rest =>
      match readPart handles part rest with
      | .error fault => .error fault
      | .ok (node, ⟨after, fewer⟩) => .ok (node, ⟨after, by simp; omega⟩)
  | tokens => .ok (.empty, ⟨tokens, Nat.le_refl _⟩)
termination_by 4 * tokens.length + 3

def readBlockItems (handles : TagHandles) (tokens : List Token) : ReadSome (List (Node String)) tokens :=
  match tokens with
  | .blockEntry :: rest =>
      match readPart handles .sequenceEntry rest with
      | .error fault => .error fault
      | .ok (item, ⟨after, fewer⟩) =>
          match readBlockItems handles after with
          | .error fault => .error fault
          | .ok (items, ⟨last, lastFewer⟩) => .ok (item :: items, ⟨last, by simp; omega⟩)
  | .blockEnd :: rest => .ok ([], ⟨rest, by simp⟩)
  | _ => .error .grammar
termination_by 4 * tokens.length

/-- Read the entries of a block sequence that is not indented more than the mapping around it. -/
def readUnindentedItems (handles : TagHandles) (tokens : List Token) : Read (List (Node String)) tokens :=
  match tokens with
  | .blockEntry :: rest =>
      match readPart handles .unindentedEntry rest with
      | .error fault => .error fault
      | .ok (item, ⟨after, fewer⟩) =>
          match readUnindentedItems handles after with
          | .error fault => .error fault
          | .ok (items, ⟨last, lastFewer⟩) => .ok (item :: items, ⟨last, by simp; omega⟩)
  | tokens => .ok ([], ⟨tokens, Nat.le_refl _⟩)
termination_by 4 * tokens.length

def readBlockEntries (handles : TagHandles) (tokens : List Token) :
    ReadSome (List (Node String × Node String)) tokens :=
  match tokens with
  | .key :: rest =>
      match readPart handles .mappingPart rest with
      | .error fault => .error fault
      | .ok (key, ⟨afterKey, keyFewer⟩) =>
          match readValue handles .mappingPart afterKey with
          | .error fault => .error fault
          | .ok (value, ⟨after, fewer⟩) =>
              match readBlockEntries handles after with
              | .error fault => .error fault
              | .ok (entries, ⟨last, lastFewer⟩) =>
                  .ok ((key, value) :: entries, ⟨last, by simp; omega⟩)
  | .blockEnd :: rest => .ok ([], ⟨rest, by simp⟩)
  | _ => .error .grammar
termination_by 4 * tokens.length

/-- Read an item of a flow sequence: a node, or a mapping of a single entry without braces. Where the
key of such an entry is missing, the token in its place is passed over. -/
def readFlowItem (handles : TagHandles) (tokens : List Token) : ReadSome (Node String) tokens :=
  match tokens with
  | .key :: stop :: rest =>
      if (Part.stops .flowEntry).contains stop || stop = .value then
        match readValue handles .flowEntry rest with
        | .error fault => .error fault
        | .ok (value, ⟨after, fewer⟩) =>
            .ok (.mapping .absent [(.empty, value)], ⟨after, by simp; omega⟩)
      else
        match readNode handles .flow (stop :: rest) with
        | .error fault => .error fault
        | .ok (key, ⟨afterKey, keyFewer⟩) =>
            have _ : afterKey.length < rest.length + 2 := by simp at keyFewer; omega
            match readValue handles .flowEntry afterKey with
            | .error fault => .error fault
            | .ok (value, ⟨after, fewer⟩) =>
                .ok (.mapping .absent [(key, value)], ⟨after, by simp at keyFewer ⊢; omega⟩)
  | tokens => readNode handles .flow tokens
termination_by 4 * tokens.length + 2

def readFlowItems (handles : TagHandles) (tokens : List Token) : ReadSome (List (Node String)) tokens :=
  match tokens with
  | .flowSequenceEnd :: rest => .ok ([], ⟨rest, by simp⟩)
  | tokens =>
      match readFlowItem handles tokens with
      | .error fault => .error fault
      | .ok (item, ⟨.flowSequenceEnd :: rest, fewer⟩) =>
          .ok ([item], ⟨rest, by simp at fewer; omega⟩)
      | .ok (item, ⟨.flowEntry :: rest, fewer⟩) =>
          have _ : rest.length < tokens.length := by simp at fewer; omega
          match readFlowItems handles rest with
          | .error fault => .error fault
          | .ok (items, ⟨last, lastFewer⟩) =>
              .ok (item :: items, ⟨last, by simp at fewer; omega⟩)
      | .ok _ => .error .grammar
termination_by 4 * tokens.length + 3

/-- Read an entry of a flow mapping. A key without an indicator before it has no value. -/
def readFlowEntry (handles : TagHandles) (tokens : List Token) : ReadSome (Node String × Node String) tokens :=
  match tokens with
  | .key :: rest =>
      match readPart handles .flowKey rest with
      | .error fault => .error fault
      | .ok (key, ⟨afterKey, keyFewer⟩) =>
          match readValue handles .flowValue afterKey with
          | .error fault => .error fault
          | .ok (value, ⟨after, fewer⟩) => .ok ((key, value), ⟨after, by simp; omega⟩)
  | tokens =>
      match readNode handles .flow tokens with
      | .error fault => .error fault
      | .ok (key, after) => .ok ((key, .empty), after)
termination_by 4 * tokens.length + 2

def readFlowEntries (handles : TagHandles) (tokens : List Token) :
    ReadSome (List (Node String × Node String)) tokens :=
  match tokens with
  | .flowMappingEnd :: rest => .ok ([], ⟨rest, by simp⟩)
  | tokens =>
      match readFlowEntry handles tokens with
      | .error fault => .error fault
      | .ok (entry, ⟨.flowMappingEnd :: rest, fewer⟩) =>
          .ok ([entry], ⟨rest, by simp at fewer; omega⟩)
      | .ok (entry, ⟨.flowEntry :: rest, fewer⟩) =>
          have _ : rest.length < tokens.length := by simp at fewer; omega
          match readFlowEntries handles rest with
          | .error fault => .error fault
          | .ok (entries, ⟨last, lastFewer⟩) =>
              .ok (entry :: entries, ⟨last, by simp at fewer; omega⟩)
      | .ok _ => .error .grammar
termination_by 4 * tokens.length + 3

end

/-- Read the directives before a document: at most one version, which must be 1.1 or 1.2, and no handle
twice. -/
def readDirectives : Bool → TagHandles → List Token → Except Fault (TagHandles × List Token)
  | hasVersion, handles, .versionDirective major minor :: rest =>
      if hasVersion || major ≠ 1 || (minor ≠ 1 && minor ≠ 2) then .error .grammar
      else readDirectives true handles rest
  | hasVersion, handles, .tagDirective handle expansion :: rest =>
      if (handles.lookup handle).isSome then .error .grammar
      else readDirectives hasVersion ((handle, expansion) :: handles) rest
  | _, handles, tokens => .ok (handles ++ standardHandles, tokens)

def endsDocument : Token → Bool
  | .versionDirective _ _ | .tagDirective _ _ | .documentStart | .documentEnd => true
  | _ => false

def onlyEndMarkers (tokens : List Token) : Except Fault Unit :=
  match tokens.dropWhile (· == .documentEnd) with
  | [] => .ok ()
  | .documentStart :: _ | .versionDirective _ _ :: _ | .tagDirective _ _ :: _ =>
      .error .severalDocuments
  | _ => .error .grammar

def readContent (handles : TagHandles) (tokens : List Token) : Except Fault (Node String) := do
  let (node, after) ← readNode handles .block tokens
  onlyEndMarkers after.val
  pure node

def readDocument (tokens : List Token) : Except Fault (Option (Node String)) :=
  match tokens with
  | [] => .ok none
  | first :: _ =>
      if endsDocument first && first != .documentEnd then do
        let (handles, rest) ← readDirectives false [] tokens
        match rest with
        | .documentStart :: content =>
            if content.head?.all endsDocument then do
              onlyEndMarkers content
              pure (some .empty)
            else
              let node ← readContent handles content
              pure (some node)
        | _ => throw .grammar
      else some <$> readContent standardHandles tokens

end ClusterConfig.Yaml

import Keychord.Proofs.Keymap.Conflict
import Keychord.Proofs.Keymap.Confluence
import Keychord.Proofs.Notation.RoundTrip

namespace Keychord

namespace Notation

def Token.isLeader : Token → Bool
  | bracket content => Text.lower (String.ofList content) = "leader"
  | _ => false

def substitute (leader : Key) (source : String) : String :=
  String.join ((tokens source.toList).map fun token => if token.isLeader then writeKey leader else token.text)

def Token.replaced (spelled token : Token) : Token := if token.isLeader then spelled else token

section Tokens

variable {leader other key : Key} {token spelled : Token} {ts : List Token} {source : String} {keys : List Key}

theorem Token.key_of_isLeader (h : token.isLeader) : token.key leader = .ok leader := by
  cases token with
  | bracket content => exact bracketKey_eq_ok_iff.mpr (.leader (by simpa [isLeader] using h))
  | _ => cases h

theorem Token.key_of_not_isLeader (h : ¬token.isLeader) : token.key other = token.key leader := by
  cases token with
  | bracket content =>
    have unlike : Text.lower (String.ofList content) ≠ "leader" := by simpa [isLeader] using h
    simp [Token.key, bracketKey, unlike]
  | _ => rfl

theorem Token.Spells.key_replaced (spells : spelled.Spells leader) :
    (spelled.replaced token).key other = token.key leader := by
  rw [replaced]
  split
  case isTrue h => rw [spells.read other, key_of_isLeader h]
  case isFalse h => exact key_of_not_isLeader h

theorem Scanned.replaced (closed : spelled.Closed) (scanned : Scanned ts) : Scanned (ts.map spelled.replaced) := by
  induction scanned with
  | nil => exact .nil
  | unclosed h => exact .unclosed h
  | @cons token ts h _ ih =>
    refine .cons ?closed ih
    rw [Token.replaced]
    split
    case isTrue => exact closed
    case isFalse => exact h

theorem Token.Spells.toList_substitute (spells : spelled.Spells leader) (source : String) :
    (substitute leader source).toList = ((tokens source.toList).map spelled.replaced).flatMap Token.written := by
  have each : ∀ token : Token,
      (if token.isLeader then writeKey leader else token.text).toList = (spelled.replaced token).written := by
    intro token
    rw [replaced, ← spells.written]
    split <;> simp [text]
  simp [substitute, String.toList_join, List.flatMap_map, each]

-- The tokens are those of the notation, but for the leader: what is written for it stays apart from the rest.
theorem Token.Spells.tokens_substitute (spells : spelled.Spells leader) (source : String) :
    tokens (substitute leader source).toList = (tokens source.toList).map spelled.replaced := by
  rw [spells.toList_substitute, ((scanned_tokens _).replaced spells.closed).tokens_written]

theorem Token.Spells.substitute_eq_empty (spells : spelled.Spells leader) :
    substitute leader source = "" ↔ source = "" := by
  have empty : ∀ text : String, text = "" ↔ tokens text.toList = [] := by simp [tokens_eq_nil_iff]
  rw [empty, spells.tokens_substitute, List.map_eq_nil_iff, ← empty]

theorem parse_substitute (spelled : leader.Spelled) (other : Key) :
    parse other (substitute leader source) = .ok keys ↔ parse leader source = .ok keys := by
  have ⟨token, spells⟩ := exists_spells spelled
  simp only [parse_eq_ok_iff, ne_eq, spells.substitute_eq_empty, spells.tokens_substitute, List.forall₂_map_left_iff,
    spells.key_replaced]

end Tokens

end Notation

namespace Keymap

def substitute (leader : Key) (bindings : OrderedMap String String) : OrderedMap String String :=
  .ofList (bindings.entries.map (Prod.map (Notation.substitute leader) id))

def Binding.substitute (leader : Key) (b : Binding) : Binding := { b with source := Notation.substitute leader b.source }

section Bindings

variable {leader other : Key} {bindings : OrderedMap String String} {entries : List (String × String)}
  {parsed parsed' : List Binding}

theorem entries_substitute (distinct : bindings.keys.Nodup)
    (apart : ∀ source ∈ bindings.keys, ∀ source' ∈ bindings.keys,
      Notation.substitute leader source = Notation.substitute leader source' → source = source') :
    (substitute leader bindings).entries = bindings.entries.map (Prod.map (Notation.substitute leader) id) := by
  have sources : (bindings.keys.map (Notation.substitute leader)).Nodup := distinct.map_on apart
  rw [substitute, OrderedMap.ofList_of_nodup (by simpa [OrderedMap.keys, Function.comp_def] using sources)]

theorem readBindings_substitute (spelled : leader.Spelled) (h : readBindings leader entries = .ok parsed) :
    readBindings other (entries.map (Prod.map (Notation.substitute leader) id)) =
      .ok (parsed.map (Binding.substitute leader)) := by
  have ⟨read, good⟩ := readBindings_eq_ok_iff.mp h
  rw [readBindings_eq_ok_iff]
  constructor
  case left => simp [← read, Binding.substitute]
  case right =>
    intro b hb
    have ⟨b', hb', same⟩ := List.mem_map.mp hb
    have ⟨named, keys⟩ := good b' hb'
    rw [← same]
    exact ⟨named, (Notation.parse_substitute spelled other).mpr keys⟩

-- A binding whose leader is written out can be read only if the binding can.
theorem exists_readBindings_of_substitute (spelled : leader.Spelled)
    (h : readBindings other (bindings.entries.map (Prod.map (Notation.substitute leader) id)) = .ok parsed') :
    ∃ parsed, readBindings leader bindings.entries = .ok parsed := by
  have ⟨read, good⟩ := readBindings_eq_ok_iff.mp h
  apply Readable.exists_readBindings
  intro entry he
  have written : (Notation.substitute leader entry.1, entry.2) ∈ parsed'.map (fun b => (b.source, b.command)) := by
    rw [read]
    exact List.mem_map_of_mem he
  have ⟨b, hb, same⟩ := List.mem_map.mp written
  have ⟨named, keys⟩ := good b hb
  have ⟨source, command⟩ := Prod.mk.inj same
  rw [source] at keys
  exact ⟨command ▸ named, b.keys, (Notation.parse_substitute spelled other).mp keys⟩

theorem firstConflict?_substitute :
    firstConflict? (parsed.map (Binding.substitute leader)) = none ↔ firstConflict? parsed = none := by
  have clashes : ∀ {b b' : Binding} {clash : Clash},
      (b.substitute leader).Clashes clash (b'.substitute leader) ↔ b.Clashes clash b' := by
    intro _ _ clash
    cases clash <;> rfl
  simp [firstConflict?_eq_none_iff, clashes]

theorem treeOf_substitute : treeOf (parsed.map (Binding.substitute leader)) = treeOf parsed := by
  rw [treeOf, List.foldl_map]
  rfl

end Bindings

section Compile

variable {given given' : Notation.Leader} {leader other : Key} {timeout timeout' : Int}
  {bindings written : OrderedMap String String}

theorem compile_substitute_isOk (spelled : leader.Spelled) (hl : given.toKey = .ok leader)
    (hm : given'.toKey = .ok other)
    (entries : written.entries = bindings.entries.map (Prod.map (Notation.substitute leader) id)) :
    (compile given timeout bindings).isOk ↔ (compile given' timeout' written).isOk := by
  simp only [compile_isOk_iff, hl, hm, Except.ok.injEq, exists_and_left, exists_eq_left', entries]
  constructor
  case mp =>
    intro ⟨parsed, read, clear⟩
    exact ⟨_, readBindings_substitute spelled read, firstConflict?_substitute.mpr clear⟩
  case mpr =>
    intro ⟨parsed', read', clear⟩
    have ⟨parsed, read⟩ := exists_readBindings_of_substitute spelled read'
    rw [readBindings_substitute spelled read] at read'
    cases read'
    exact ⟨parsed, read, firstConflict?_substitute.mp clear⟩

theorem compile_substitute_root (spelled : leader.Spelled) (hl : given.toKey = .ok leader)
    (hm : given'.toKey = .ok other)
    (entries : written.entries = bindings.entries.map (Prod.map (Notation.substitute leader) id))
    {keymap keymap' : Keymap} (h : compile given timeout bindings = .ok keymap)
    (h' : compile given' timeout' written = .ok keymap') : keymap'.root = keymap.root := by
  have ok : (compile given timeout bindings).isOk := isOk_iff.mpr ⟨_, h⟩
  simp only [compile_isOk_iff, hl, Except.ok.injEq, exists_and_left, exists_eq_left'] at ok
  have ⟨parsed, read, clear⟩ := ok
  have read' : readBindings other written.entries = .ok (parsed.map (Binding.substitute leader)) := by
    rw [entries, readBindings_substitute spelled read]
  rw [compile_of_read hl read, clear] at h
  rw [compile_of_read hm read', firstConflict?_substitute.mpr clear] at h'
  cases h
  cases h'
  exact treeOf_substitute

end Compile

-- A notation is read with its leader as it is with any other leader once the leader is written out, and so are bindings
-- as long as no two of them become the same text.
theorem leader_substitution {source source' : String} {leader other : Key}
    (hl : Notation.leaderOfText source = .ok leader) (hm : Notation.leaderOfText source' = .ok other) :
    (∀ text keys, Notation.parse leader text = .ok keys ↔
      Notation.parse other (Notation.substitute leader text) = .ok keys) ∧
    ∀ bindings : OrderedMap String String, bindings.keys.Nodup →
      (∀ text ∈ bindings.keys, ∀ text' ∈ bindings.keys,
        Notation.substitute leader text = Notation.substitute leader text' → text = text') →
      ∀ timeout, ((compile (.text source) timeout bindings).isOk ↔
          (compile (.text source') timeout (substitute leader bindings)).isOk) ∧
        ∀ keymap keymap', compile (.text source) timeout bindings = .ok keymap →
          compile (.text source') timeout (substitute leader bindings) = .ok keymap' →
            ∀ keys, keymap'.lookup keys = keymap.lookup keys := by
  have spelled := Notation.spelled_of_leader hl
  have given : (Notation.Leader.text source).toKey = .ok leader := hl
  have given' : (Notation.Leader.text source').toKey = .ok other := hm
  constructor
  case left => exact fun text keys => (Notation.parse_substitute spelled other).symm
  case right =>
    intro bindings distinct apart timeout
    have entries := entries_substitute distinct apart
    constructor
    case left => exact compile_substitute_isOk spelled given given' entries
    case right =>
      intro keymap keymap' h h' keys
      have root := compile_substitute_root spelled given given' entries h h'
      rw [lookup, root, lookup]

def led : OrderedMap String String := ⟨[("<Leader>g<LEADER>", "top"), ("g<leader>>", "grow"), ("<C-S-g>", "find")]⟩

theorem leader_substitution_led : ∃ leader keymap keymap', Notation.leaderOfText "G" = .ok leader ∧
    (substitute leader led).keys = ["<S-g>g<S-g>", "g<S-g>>", "<C-S-g>"] ∧
      compile (.text "G") 500 led = .ok keymap ∧ compile (.text ",") 500 (substitute leader led) = .ok keymap' ∧
        ∀ keys, keymap'.lookup keys = keymap.lookup keys := by
  have hl : Notation.leaderOfText "G" = .ok (.ofChar 'g' { shift := true }) := by decide +kernel
  have hm : Notation.leaderOfText "," = .ok (.ofChar ',' .none) := by decide +kernel
  have distinct : led.keys.Nodup := by decide +kernel
  have apart : ∀ text ∈ led.keys, ∀ text' ∈ led.keys, Notation.substitute (.ofChar 'g' { shift := true }) text =
      Notation.substitute (.ofChar 'g' { shift := true }) text' → text = text' := by decide +kernel
  have ⟨_, bound⟩ := leader_substitution hl hm
  have ⟨ok, same⟩ := bound led distinct apart 500
  have compiles : (compile (.text "G") 500 led).isOk := by decide +kernel
  have ⟨keymap, h⟩ := isOk_iff.mp compiles
  have ⟨keymap', h'⟩ := isOk_iff.mp (ok.mp compiles)
  exact ⟨_, keymap, keymap', hl, by decide +kernel, h, h', same keymap keymap' h h'⟩

end Keymap

end Keychord

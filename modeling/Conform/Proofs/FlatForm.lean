import Mathlib
import Conform.Proofs.FailuresJson
/-! The flat form maps the dotted path of each node of the failures to its messages; with distinct
field code names it lists every node once, in tree order.
-/

namespace Conform.Failures

-----------------------------------------------------------------------------------------
-- Paths
-----------------------------------------------------------------------------------------

/-- The dotted form of the keys on the way to a node. -/
def pathKey (path : List String) : String := ".".intercalate path

/-- A key that its dotted path can be read back from: nonempty and without a dot. -/
def PlainKey (key : String) : Prop := key ≠ "" ∧ '.' ∉ key.toList

theorem selfKey_plain : PlainKey selfKey := by
  constructor <;> decide

@[simp] theorem pathKey_nil : pathKey [] = "" := rfl

theorem pathKey_ne_empty {key : String} {rest : List String} (plain : PlainKey key)
    : pathKey (key :: rest) ≠ "" := by
  intro empty
  have chars := congrArg String.toList empty
  cases rest with
  | nil => exact plain.1 (by simpa [pathKey] using empty)
  | cons next rest =>
    simp only [pathKey, String.intercalate_cons_cons, String.toList_append] at chars
    simp at chars

/-- A child's path under a parent's: the key alone under the root, else after a dot. -/
theorem joinPath_pathKey (path : List String) (key : String) (plain : ∀ k ∈ path, PlainKey k)
    : joinPath (pathKey path) key = pathKey (path ++ [key]) := by
  cases path with
  | nil => simp [joinPath, pathKey]
  | cons first rest =>
    have nonempty := @pathKey_ne_empty first rest (plain first (by simp))
    rw [joinPath, if_neg (by simpa using nonempty)]
    simp only [pathKey]
    rw [String.intercalate_append_of_ne_nil (by simp) (by simp), String.intercalate_singleton]

/-- Paths of plain keys are read back from their dotted form: the dots split it into the keys. -/
theorem pathKey_injective {path path' : List String} (plain : ∀ k ∈ path, PlainKey k)
    (plain' : ∀ k ∈ path', PlainKey k) (same : pathKey path = pathKey path') : path = path' := by
  cases path with
  | nil =>
    cases path' with
    | nil => rfl
    | cons key rest => exact absurd same.symm (pathKey_ne_empty (plain' key (by simp)))
  | cons key rest =>
    cases path' with
    | nil => exact absurd same (pathKey_ne_empty (plain key (by simp)))
    | cons key' rest' =>
      have dotFree : ∀ p : List String, (∀ k ∈ p, PlainKey k) → ∀ l ∈ p.map String.toList, '.' ∉ l := by
        intro p plainKeys l member
        obtain ⟨k, mem, rfl⟩ := List.mem_map.mp member
        exact (plainKeys k mem).2
      have chars := congrArg String.toList same
      simp only [pathKey, String.toList_intercalate] at chars
      have split := congrArg (List.splitOn '.') chars
      rw [show ".".toList = ['.'] from rfl, List.splitOn_intercalate '.' (dotFree _ plain) (by simp),
        List.splitOn_intercalate '.' (dotFree _ plain') (by simp)] at split
      exact List.map_injective_iff.mpr (fun _ _ => String.toList_injective) split

-----------------------------------------------------------------------------------------
-- The nodes of failures
-----------------------------------------------------------------------------------------

mutual

/-- The nodes of failures that hold messages, each with the keys on the way to it: a list of
messages at the root, and for a nested node its own failures under `_self` when it has any,
then the nodes of each child under the child's key. -/
def nodes : Failures → List (List String × List String)
  | .messages texts => [([], texts)]
  | .noMessages | .noNested => []
  | .nested own items => (if own.isEmpty then [] else [([selfKey], own)]) ++ itemNodes items

/-- The nodes of the children of a nested node, each under its key. -/
def itemNodes : List (String × Option Failures) → List (List String × List String)
  | [] => []
  | (key, some e) :: rest => (nodes e).map (fun n => (key :: n.1, n.2)) ++ itemNodes rest
  | (_, none) :: rest => itemNodes rest

end

mutual

/-- How many messages failures hold, own failures and children's together. -/
def messageCount : Failures → Nat
  | .messages texts => texts.length
  | .noMessages | .noNested => 0
  | .nested own items => own.length + itemsMessageCount items

/-- How many messages the children of a nested node hold. -/
def itemsMessageCount : List (String × Option Failures) → Nat
  | [] => 0
  | (_, some e) :: rest => messageCount e + itemsMessageCount rest
  | (_, none) :: rest => itemsMessageCount rest

end

mutual

/-- The nodes hold all the messages of the failures, by recursion on the failures. -/
theorem nodes_messageCount : ∀ e : Failures, ((nodes e).map (·.2.length)).sum = messageCount e
  | .messages texts => by simp [nodes, messageCount]
  | .noMessages => rfl
  | .noNested => rfl
  | .nested own items => by
    have children := itemNodes_messageCount items
    cases empty : own.isEmpty
    · simp [nodes, messageCount, empty, children]
    · simp [nodes, messageCount, List.isEmpty_iff.mp empty, children]

theorem itemNodes_messageCount : ∀ items : List (String × Option Failures),
    ((itemNodes items).map (·.2.length)).sum = itemsMessageCount items
  | [] => rfl
  | (_, some e) :: rest => by
    simp [itemNodes, itemsMessageCount, ← nodes_messageCount e, itemNodes_messageCount rest,
      Function.comp_def]
  | (_, none) :: rest => by simp [itemNodes, itemsMessageCount, itemNodes_messageCount rest]

end

/-- Every node of the children lies under the key of one of them. -/
theorem mem_itemNodes {items : List (String × Option Failures)} {n : List String × List String}
    (mem : n ∈ itemNodes items) : ∃ key ∈ items.map (·.1), ∃ rest, n.1 = key :: rest := by
  induction items with
  | nil => simp [itemNodes] at mem
  | cons item items ih =>
    obtain ⟨key, e⟩ := item
    cases e with
    | none =>
      obtain ⟨k, member, found⟩ := ih (by simpa [itemNodes] using mem)
      exact ⟨k, List.mem_cons_of_mem _ member, found⟩
    | some e =>
      simp only [itemNodes, List.mem_append, List.mem_map] at mem
      rcases mem with ⟨m, _, rfl⟩ | later
      · exact ⟨key, by simp, m.1, rfl⟩
      · obtain ⟨k, member, found⟩ := ih later
        exact ⟨k, List.mem_cons_of_mem _ member, found⟩

-----------------------------------------------------------------------------------------
-- Failures keyed apart
-----------------------------------------------------------------------------------------

mutual

/-- Failures whose children are keyed apart: every nested node has children under distinct
plain keys other than `_self`, each with failures keyed apart in turn. -/
inductive Keyed : Failures → Prop
  | messages (texts : List String) : Keyed (.messages texts)
  | nested {own : List String} {items : List (String × Option Failures)}
    : KeyedItems items → Keyed (.nested own items)

/-- Children under distinct plain keys other than `_self`, each with keyed failures. -/
inductive KeyedItems : List (String × Option Failures) → Prop
  | nil : KeyedItems []
  | cons {key : String} {e : Failures} {rest : List (String × Option Failures)}
    : PlainKey key → key ≠ selfKey → key ∉ rest.map (·.1) → Keyed e → KeyedItems rest
      → KeyedItems ((key, some e) :: rest)

end

/-- No child keyed apart is keyed `_self`, by recursion on the children. -/
theorem KeyedItems.key_ne : ∀ {items : List (String × Option Failures)}, KeyedItems items →
    ∀ q ∈ items, q.1 ≠ selfKey
  | _, .nil => by simp
  | _, .cons _ other _ _ rest => by
    intro q mem
    rcases List.mem_cons.mp mem with rfl | later
    · exact other
    · exact key_ne rest q later

/-- Children keyed apart, found among candidates with distinct plain keys other than `_self`
by keeping those whose failures are present, by induction on the candidates. -/
theorem KeyedItems.of_filterMap {α : Type} (key : α → String) (failures : α → Option Failures)
    {cs : List α} (distinct : (cs.map key).Nodup)
    (each : ∀ c ∈ cs, PlainKey (key c) ∧ key c ≠ selfKey ∧ ∀ e, failures c = some e → e.Keyed)
    : KeyedItems (cs.filterMap fun c => (failures c).map fun e => (key c, some e)) := by
  induction cs with
  | nil => exact .nil
  | cons c rest ih =>
    obtain ⟨fresh, distinctRest⟩ := List.nodup_cons.mp distinct
    have later := ih distinctRest fun c' member => each c' (List.mem_cons_of_mem c member)
    obtain ⟨plain, other, keyed⟩ := each c List.mem_cons_self
    cases found : failures c with
    | none => simpa [List.filterMap_cons, found] using later
    | some e =>
      rw [List.filterMap_cons, found]
      refine .cons plain other ?_ (keyed e found) later
      -- a kept candidate's key is one of the remaining candidates' keys
      intro mem
      simp only [List.map_filterMap, List.mem_filterMap, Option.map_map] at mem
      obtain ⟨c', member, kept⟩ := mem
      cases found' : failures c' with
      | none => simp [found'] at kept
      | some e' =>
        simp only [found', Option.map_some, Function.comp_apply, Option.some.injEq] at kept
        exact fresh (kept ▸ List.mem_map_of_mem member)

mutual

/-- The keys on the way to a node of keyed failures are plain, by recursion on keyedness. -/
theorem nodes_plain : ∀ {e : Failures}, e.Keyed → ∀ n ∈ nodes e, ∀ k ∈ n.1, PlainKey k
  | _, .messages texts => by simp [nodes]
  | _, @Keyed.nested own items children => by
    intro n mem k onPath
    simp only [nodes, List.mem_append] at mem
    rcases mem with own | child
    · split at own
      · simp at own
      · simp only [List.mem_singleton] at own
        subst own
        simp only [List.mem_singleton] at onPath
        exact onPath ▸ selfKey_plain
    · exact itemNodes_plain children n child k onPath

theorem itemNodes_plain : ∀ {items : List (String × Option Failures)}, KeyedItems items →
    ∀ n ∈ itemNodes items, ∀ k ∈ n.1, PlainKey k
  | _, .nil => by simp [itemNodes]
  | _, @KeyedItems.cons key e rest plain _ _ first later => by
    intro n mem k onPath
    simp only [itemNodes, List.mem_append, List.mem_map] at mem
    rcases mem with ⟨m, member, rfl⟩ | other
    · rcases List.mem_cons.mp onPath with rfl | below
      · exact plain
      · exact nodes_plain first m member k below
    · exact itemNodes_plain later n other k onPath

end

mutual

/-- No two nodes of keyed failures lie on the same path, by recursion on keyedness: own
failures lie under `_self`, which keys no child, and the nodes of two children lie under
their distinct keys. -/
theorem nodes_nodup : ∀ {e : Failures}, e.Keyed → ((nodes e).map (·.1)).Nodup
  | _, .messages texts => by simp [nodes]
  | _, @Keyed.nested own items children => by
    rw [nodes, List.map_append, List.nodup_append]
    refine ⟨by split <;> simp, itemNodes_nodup children, ?_⟩
    intro a ownPath b childPath same
    split at ownPath
    · simp at ownPath
    · simp only [List.map_cons, List.map_nil, List.mem_singleton] at ownPath
      obtain ⟨n, member, rfl⟩ := List.mem_map.mp childPath
      obtain ⟨key, keyed, rest, onPath⟩ := mem_itemNodes member
      obtain ⟨q, qMember, rfl⟩ := List.mem_map.mp keyed
      have head : selfKey = q.1 := by
        rw [ownPath, onPath] at same
        exact (List.cons.inj same).1
      exact children.key_ne q qMember head.symm

theorem itemNodes_nodup : ∀ {items : List (String × Option Failures)}, KeyedItems items →
    ((itemNodes items).map (·.1)).Nodup
  | _, .nil => by simp [itemNodes]
  | _, @KeyedItems.cons key e rest _ _ fresh first later => by
    rw [itemNodes, List.map_append, List.nodup_append, List.map_map]
    refine ⟨?_, itemNodes_nodup later, ?_⟩
    · have below := nodes_nodup first
      have prefixed : ((fun n : List String × List String => n.1) ∘
          fun n : List String × List String => (key :: n.1, n.2))
          = List.cons key ∘ fun n : List String × List String => n.1 := rfl
      rw [prefixed, ← List.map_map]
      exact below.map List.cons_injective
    · -- the first child's nodes lie under its key, the others' under keys of later children
      intro a here b there same
      obtain ⟨m, _, rfl⟩ := List.mem_map.mp here
      obtain ⟨n, member, rfl⟩ := List.mem_map.mp there
      obtain ⟨k, keyed, rest', onPath⟩ := mem_itemNodes member
      simp only [Function.comp_apply, onPath, List.cons.injEq] at same
      exact fresh (same.1 ▸ keyed)

end

-----------------------------------------------------------------------------------------
-- The flat form of keyed failures
-----------------------------------------------------------------------------------------

/-- Flattening a nested node sets its own failures under `_self`, then flattens each present
child under its key, in order. -/
theorem flattenInto_nested (pre : String) (out : List (String × Option (List String)))
    (own : List String) (items : List (String × Option Failures))
    : flattenInto pre out (.nested own items)
      = items.foldl (fun acc q => match q.2 with
          | some f => flattenInto (joinPath pre q.1) acc f
          | none => acc)
        (if own.isEmpty then out else setPath out (joinPath pre selfKey) (some own)) := by
  rw [flattenInto, List.foldl_subtype (fun acc q h => ?_), List.unattach_attach]
  obtain ⟨k, e⟩ := q
  cases e <;> rfl

/-- The flat entries of nodes that lie under a path. -/
def entriesAt (path : List String) (ns : List (List String × List String))
    : List (String × Option (List String)) :=
  ns.map fun n => (pathKey (path ++ n.1), some n.2)

/-- Set each of some entries in a flat map, in order. -/
def setAll (out entries : List (String × Option (List String)))
    : List (String × Option (List String)) :=
  entries.foldl (fun acc entry => setPath acc entry.1 entry.2) out

theorem setAll_append (out xs ys : List (String × Option (List String)))
    : setAll out (xs ++ ys) = setAll (setAll out xs) ys :=
  List.foldl_append

/-- Setting a path that a flat map does not have adds it at the end. -/
theorem setPath_of_fresh {out : List (String × Option (List String))} {path : String}
    {ms : Option (List String)} (fresh : path ∉ out.map (·.1))
    : setPath out path ms = out ++ [(path, ms)] := by
  have absent : out.any (·.1 == path) = false := by
    simp only [List.any_eq_false, beq_iff_eq]
    intro entry member same
    exact fresh (same ▸ List.mem_map_of_mem member)
  simp [setPath, absent]

/-- Setting distinct paths that a flat map does not have adds them at the end, in order, by
induction on the entries. -/
theorem setAll_of_nodup (out entries : List (String × Option (List String)))
    (distinct : (out.map (·.1) ++ entries.map (·.1)).Nodup) : setAll out entries = out ++ entries := by
  induction entries generalizing out with
  | nil => simp [setAll]
  | cons entry rest ih =>
    have fresh : entry.1 ∉ out.map (·.1) := by
      intro member
      exact (List.nodup_append.mp distinct).2.2 _ member _ (by simp) rfl
    have step : setAll out (entry :: rest) = setAll (out ++ [entry]) rest := by
      simp [setAll, setPath_of_fresh fresh]
    rw [step, ih (out ++ [entry]) (by simpa using distinct)]
    simp

mutual

/-- Flattening keyed failures under a path sets the dotted path of each of their nodes in
turn, by recursion on keyedness: a child's prefix is its parent's path and its key. -/
theorem flattenInto_keyed : ∀ {e : Failures}, e.Keyed → ∀ (path : List String),
    (∀ k ∈ path, PlainKey k) → ∀ out,
    flattenInto (pathKey path) out e = setAll out (entriesAt path (nodes e))
  | _, .messages texts => by
    intro path _ out
    simp [flattenInto, nodes, entriesAt, setAll]
  | _, @Keyed.nested own items children => by
    intro path plain out
    rw [flattenInto_nested, nodes, entriesAt, List.map_append, setAll_append,
      itemsFlatten_keyed children path plain]
    congr 1
    rw [joinPath_pathKey path selfKey plain]
    split <;> simp [setAll, *]

theorem itemsFlatten_keyed : ∀ {items : List (String × Option Failures)}, KeyedItems items →
    ∀ (path : List String), (∀ k ∈ path, PlainKey k) → ∀ out,
    items.foldl (fun acc q => match q.2 with
        | some f => flattenInto (joinPath (pathKey path) q.1) acc f
        | none => acc) out
      = setAll out ((itemNodes items).map fun n => (pathKey (path ++ n.1), some n.2))
  | _, .nil => by simp [itemNodes, setAll]
  | _, @KeyedItems.cons key e rest plainKey _ _ first later => by
    intro path plain out
    have under : ∀ k ∈ path ++ [key], PlainKey k := by
      simpa [or_imp, forall_and] using And.intro plain plainKey
    rw [List.foldl_cons, itemNodes, List.map_append, setAll_append]
    simp only
    rw [joinPath_pathKey path key plain, flattenInto_keyed first (path ++ [key]) under,
      itemsFlatten_keyed later path plain]
    simp [entriesAt, Function.comp_def]

end

/-- The flat form of keyed failures is their nodes under their dotted paths, in order, no two
on the same path: `flattenInto_keyed` from the root, and the paths are distinct by
`nodes_nodup` and read back by `pathKey_injective`. -/
theorem flatten_keyed {e : Failures} (keyed : e.Keyed)
    : flatten (some e) = (nodes e).map (fun n => (pathKey n.1, some n.2))
      ∧ ((nodes e).map fun n => pathKey n.1).Nodup := by
  have distinct : ((nodes e).map fun n => pathKey n.1).Nodup := by
    have keys : (fun n : List String × List String => pathKey n.1)
        = pathKey ∘ fun n : List String × List String => n.1 := rfl
    rw [keys, ← List.map_map]
    apply (nodes_nodup keyed).map_on
    intro p member p' member' same
    obtain ⟨n, nMember, rfl⟩ := List.mem_map.mp member
    obtain ⟨n', nMember', rfl⟩ := List.mem_map.mp member'
    exact pathKey_injective (nodes_plain keyed n nMember) (nodes_plain keyed n' nMember') same
  refine ⟨?_, distinct⟩
  rw [flatten, ← pathKey_nil, flattenInto_keyed keyed [] (by simp) [], setAll_of_nodup]
  · simp [entriesAt]
  · simpa [entriesAt, Function.comp_def] using distinct

-----------------------------------------------------------------------------------------
-- The text of keyed failures
-----------------------------------------------------------------------------------------

/-- The text of one flat entry: its path and its messages, or the messages alone at the empty
path. -/
def entryText (path : String) (texts : List String) : String :=
  if path.isEmpty then ", ".intercalate texts else path ++ ": " ++ ", ".intercalate texts

/-- An entry of a flat map with distinct paths is the one found under its path. -/
theorem find?_of_nodup {β : Type} {entries : List (String × β)} {path : String} {b : β}
    (distinct : (entries.map (·.1)).Nodup) (member : (path, b) ∈ entries)
    : entries.find? (·.1 == path) = some (path, b) := by
  induction entries with
  | nil => simp at member
  | cons entry rest ih =>
    obtain ⟨fresh, distinctRest⟩ := List.nodup_cons.mp distinct
    rcases List.mem_cons.mp member with rfl | later
    · simp
    · have other : entry.1 ≠ path := by
        rintro rfl
        exact fresh (List.mem_map.mpr ⟨_, later, rfl⟩)
      simp [other, ih distinctRest later]

/-- The text of keyed failures lists each of their nodes once, with its path and messages,
in some order: the flat form sorted by path, each path looked up once. -/
theorem text_keyed {e : Failures} (keyed : e.Keyed)
    : ∃ parts, e.text = "validation failed: " ++ "; ".intercalate parts
      ∧ parts.Perm ((nodes e).map fun n => entryText (pathKey n.1) n.2) := by
  obtain ⟨flat, distinct⟩ := flatten_keyed keyed
  refine ⟨_, rfl, ?_⟩
  refine ((List.mergeSort_perm _ _).map _).trans ?_
  rw [flat, List.map_map, List.map_map]
  apply List.Perm.of_eq
  apply List.map_congr_left
  intro n member
  have found := @find?_of_nodup _ ((nodes e).map fun n => (pathKey n.1, some n.2)) (pathKey n.1)
    (some n.2)
    (by simpa [Function.comp_def] using distinct) (List.mem_map.mpr ⟨n, member, rfl⟩)
  simp only [Function.comp_apply]
  rw [found]
  simp [entryText]

end Conform.Failures

namespace Conform.DataType

open Conform.Failures

-----------------------------------------------------------------------------------------
-- Types whose records have distinct field keys
-----------------------------------------------------------------------------------------

/-- Every record a type is built from has fields whose code names are nonempty, pairwise
distinct and never `_self`. -/
def DistinctFieldKeys (t : DataType) : Prop :=
  ∀ s : DataType, s.Within t →
    (s.fields.map codeName).Nodup ∧ ∀ f ∈ s.fields, f.codeName ≠ "" ∧ f.codeName ≠ selfKey

/-- A code name keeps letters, digits and underscores only, so it has no dot. -/
theorem codeName_dot_free (t : DataType) : '.' ∉ t.codeName.toList := by
  simp [codeName, Text.codeName, Text.isLetter, Text.isDigit]

/-- An index is written with digits only, so it is a plain key. -/
theorem index_plain (i : Nat) : PlainKey (toString i) := by
  constructor
  · intro empty
    have chars := congrArg String.toList empty
    rw [Nat.toString_eq_ofList_toDigits, String.toList_ofList] at chars
    exact Nat.toDigits_ne_nil chars
  · intro dot
    rw [Nat.toString_eq_ofList_toDigits, String.toList_ofList] at dot
    have digit := Nat.isDigit_of_mem_toDigits (by decide) (by decide) dot
    exact absurd digit (by decide)

/-- Distinct indexes are written differently: the digits read back as the index. -/
theorem index_injective : Function.Injective (toString : Nat → String) := by
  intro i j same
  have digits : Nat.toDigits 10 i = Nat.toDigits 10 j := by
    simpa [Nat.toString_eq_ofList_toDigits] using congrArg String.toList same
  calc i = Nat.ofDigitChars 10 (Nat.toDigits 10 i) 0 := Nat.ofDigitChars_ten_toDigits.symm
    _ = Nat.ofDigitChars 10 (Nat.toDigits 10 j) 0 := by rw [digits]
    _ = j := Nat.ofDigitChars_ten_toDigits

/-- The children of a node of a type with distinct field keys lie under distinct plain keys
other than `_self`, and their types have distinct field keys too: by the cases of the
children, items under their indexes and fields under their code names. -/
theorem DistinctFieldKeys.children_keyed {t : DataType} (v : Value) (keyed : t.DistinctFieldKeys)
    : ((t.children v).map (·.1)).Nodup
      ∧ ∀ p ∈ t.children v, PlainKey p.1 ∧ p.1 ≠ selfKey ∧ p.2.1.DistinctFieldKeys := by
  cases t with
  | list b item =>
    refine ⟨?_, ?_⟩
    · have indexes : ((DataType.list b item).children v).map (·.1)
          = (v.items.zipIdx.map Prod.snd).map toString := by
        simp only [children, List.map_map]
        rfl
      rw [indexes, List.zipIdx_map_snd]
      exact List.Nodup.map index_injective List.nodup_range'
    · intro p member
      simp only [children, List.mem_map] at member
      obtain ⟨⟨x, i⟩, _, rfl⟩ := member
      exact ⟨index_plain i, toString_ne_selfKey i, fun s within => keyed s (.item within)⟩
  | record b basedOn own =>
    obtain ⟨distinct, named⟩ := keyed _ (.refl _)
    have fieldKeys : ((DataType.record b basedOn own).children v).map (·.1)
        = (DataType.record b basedOn own).fields.map codeName := by
      simp only [children, List.map_map]
      rfl
    refine ⟨fieldKeys ▸ distinct, ?_⟩
    intro p member
    simp only [children, List.mem_map] at member
    obtain ⟨f, field, rfl⟩ := member
    obtain ⟨nonempty, other⟩ := named f field
    exact ⟨⟨nonempty, codeName_dot_free f⟩, other, fun s within => keyed s (.field field within)⟩
  | _ => simp [children]

/-- The failure tree of a type with distinct field keys is keyed apart, by induction over the
nodes of the validation: a node keeps the failing ones among its children, whose keys are
distinct and plain. -/
theorem failureTree_keyed (t : DataType) (v : Value) (keyed : t.DistinctFieldKeys)
    : ∀ e, t.failureTree v = some e → e.Keyed := by
  induction t, v using children_induction with
  | step t v ih =>
    intro e tree
    cases absent : v.isAbsent with
    | true =>
      rw [failureTree_of_absent absent] at tree
      split at tree
      · cases tree
        exact .messages _
      · cases tree
    | false =>
      cases structured : t.isStructured with
      | true =>
        rw [failureTree_of_structured absent structured] at tree
        split at tree
        · cases tree
        · cases tree
          obtain ⟨distinct, each⟩ := keyed.children_keyed v
          refine .nested ?_
          unfold failingChildren
          refine KeyedItems.of_filterMap (fun p : String × DataType × Value => p.1)
            (fun p => p.2.1.failureTree p.2.2) distinct fun p member => ?_
          obtain ⟨plain, other, keyedChild⟩ := each p member
          exact ⟨plain, other, ih p member keyedChild⟩
      | false =>
        rw [failureTree_of_scalar absent structured] at tree
        split at tree
        · cases tree
        · cases tree
          exact .messages _

-----------------------------------------------------------------------------------------
-- Validation results and their flat form
-----------------------------------------------------------------------------------------

/-- The flat form of a validation result by a type whose records have nonempty, distinct field
code names other than `_self` loses nothing. It lists the nodes of the result, in order, each
under the dots joining the keys on the way to it: a list of messages under its path, the root
one under the empty path, and the own failures of a structure under its path and `_self`. No
two nodes share a path, the flat form holds as many messages as the result, the text of the
result lists each node once, and no result flattens to nothing. By `failureTree_keyed`, then
`flatten_keyed`, `nodes_messageCount` and `text_keyed`. -/
theorem flatten_validation_complete (t : DataType) (v : Value) (flag raised : Bool) (e : Failures)
    (keyed : t.DistinctFieldKeys) (validated : (t.check v).run flag = .ok (some e, raised))
    : flatten (some e) = (nodes e).map (fun n => (pathKey n.1, some n.2))
      ∧ ((nodes e).map fun n => pathKey n.1).Nodup
      ∧ ((flatten (some e)).map fun entry => (entry.2.getD []).length).sum = e.messageCount
      ∧ (∃ parts, e.text = "validation failed: " ++ "; ".intercalate parts
          ∧ parts.Perm ((nodes e).map fun n => entryText (pathKey n.1) n.2))
      ∧ flatten none = [] := by
  have tree : t.failureTree v = some e := (check_result_eq_failureTree validated).symm
  have keyedResult := failureTree_keyed t v keyed e tree
  obtain ⟨flat, distinct⟩ := flatten_keyed keyedResult
  refine ⟨flat, distinct, ?_, text_keyed keyedResult, rfl⟩
  rw [flat, List.map_map, ← nodes_messageCount e]
  simp [Function.comp_def]

/-- An order: a required reference and a list of required flags. -/
def orderType : DataType :=
  .record { name := "Order" } none
    [.text { name := "Ref", required := true } none none "",
     .list { name := "Flags" } (.trueFalse { name := "Flag", required := true })]

/-- An order with no reference and one missing flag fails under `Ref` and under the
flag's index in `Flags`, and flattens to the dotted paths `Ref` and `Flags.0`. -/
theorem order_flattens_by_path
    : orderType.DistinctFieldKeys
      ∧ (orderType.check (.map [("Flags", .list [.null])])).run false
        = .ok (some (.nested [] [("Ref", some (.messages ["Required"])),
            ("Flags", some (.nested [] [("0", some (.messages ["Required"]))]))]), false)
      ∧ flatten (some (.nested [] [("Ref", some (.messages ["Required"])),
            ("Flags", some (.nested [] [("0", some (.messages ["Required"]))]))]))
        = [("Ref", some ["Required"]), ("Flags.0", some ["Required"])] := by
  -- the records an order is built from are the order alone, whose keys are `Ref` and `Flags`
  have keyed : orderType.DistinctFieldKeys := by
    intro s within
    cases within with
    | refl => decide
    | field member inner =>
      simp only [orderType, fields, List.mem_cons, List.not_mem_nil, or_false] at member
      rcases member with rfl | rfl
      · cases inner with
        | refl => simp [fields]
        | field member _ => simp [fields] at member
      · cases inner with
        | refl => simp [fields]
        | item flag =>
          cases flag with
          | refl => simp [fields]
          | field member _ => simp [fields] at member
        | field member _ => simp [fields] at member
  -- each missing value fails with `Required`
  have flag : ((DataType.trueFalse { name := "Flag", required := true }).check .null).run false
      = .ok (some (.messages ["Required"]), false) := by
    rw [DataType.check.eq_3 _ _ (by simp) (by simp)]
    rfl
  have ref : ((DataType.text { name := "Ref", required := true } none none "").check .null).run false
      = pure (some (.messages ["Required"]), false) := by
    rw [DataType.check.eq_3 _ _ (by simp) (by simp)]
    rfl
  have flags : ((DataType.list { name := "Flags" }
      (.trueFalse { name := "Flag", required := true })).check (.list [.null])).run false
      = pure (some (.nested [] [("0", some (.messages ["Required"]))]), false) := by
    rw [DataType.check.eq_1]
    simp [Value.isAbsent, Value.items, rules, shorthand, basics, brokenRules, List.filterMapM_cons,
      flag]
    rfl
  have refKey : Text.codeName "Ref" = "Ref" := by decide
  have flagsKey : Text.codeName "Flags" = "Flags" := by decide
  have validated : (orderType.check (.map [("Flags", .list [.null])])).run false
      = .ok (some (.nested [] [("Ref", some (.messages ["Required"])),
          ("Flags", some (.nested [] [("0", some (.messages ["Required"]))]))]), false) := by
    rw [orderType, DataType.check.eq_2]
    simp [Value.isAbsent, rules, shorthand, basics, brokenRules, fields, List.filterMapM_cons, ref,
      flags, Value.fieldValue, Value.field?, codeName, name, refKey, flagsKey]
    rfl
  refine ⟨keyed, validated, ?_⟩
  rw [(flatten_validation_complete orderType _ false false _ keyed validated).1]
  decide

end Conform.DataType

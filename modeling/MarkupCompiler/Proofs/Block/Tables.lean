import MarkupCompiler.Proofs.Block.ReadingOrder
import Mathlib.Data.List.Forall2

/-!
# Tables among the blocks

A walk takes apart the tables that it reaches, and numbers them as it comes to them. Tables inside
paragraphs, list items and other tables are not reached. A table adds its captions, which are plain
paragraphs, and then a block for each cell. A line break behind it lengthens the text of its last
cell; nothing else changes a block that was added.
-/

namespace MarkupCompiler

namespace Node

mutual

/-- The tables of a node that a walk takes apart, each as its children, in the order of the walk. -/
def tables : Node → List (List Node)
  | .text _ => []
  | .special _ _ => []
  | .element tag _ children =>
    match Route.of tag children with
    | .list => tablesList children
    | .table => [children]
    | .entered => tablesAll children
    | _ => []

/-- The tables of nodes that are visited in order. -/
def tablesAll : List Node → List (List Node)
  | [] => []
  | node :: nodes => tables node ++ tablesAll nodes

/-- The tables of the children of a list. Of an item, only its lists are visited. -/
def tablesList : List Node → List (List Node)
  | [] => []
  | .element tag attributes children :: nodes =>
    let name := Text.lowerName tag
    let first :=
      if name == "li" then tablesSublists children
      else if Tags.lists.contains name then tablesList children
      else tables (.element tag attributes children)
    first ++ tablesList nodes
  | .text _ :: nodes => tablesList nodes
  | .special _ _ :: nodes => tablesList nodes

/-- The tables of the lists among the children of an item. -/
def tablesSublists : List Node → List (List Node)
  | [] => []
  | .element tag _ children :: nodes =>
    (if Tags.lists.contains (Text.lowerName tag) then tablesList children else []) ++
      tablesSublists nodes
  | .text _ :: nodes => tablesSublists nodes
  | .special _ _ :: nodes => tablesSublists nodes

end

end Node

/-- The tables of a root that the walk takes apart, in its order. -/
def Root.tables : Root → List (List Node)
  | .document children => Node.tablesAll children
  | .element _ tag attributes children => Node.tables (.element tag attributes children)

namespace Block

/-- A block with some line feeds added to its text. -/
def Lengthens (b b' : Block) : Prop := ∃ k, b' = b.appendText (List.replicate k '\n')

/--
Blocks among which those of some tables stand. The tables are numbered from `n` on, and their cells
stand together, each table's behind those of the tables before it. All other blocks are no cells.
-/
inductive Tabulated : Nat → List (List Node) → List Block → Prop
  | nil (n : Nat) : Tabulated n [] []
  | plain {n : Nat} {tables : List (List Node)} {b : Block} {blocks : List Block}
    (hplain : b.cell? = none) (h : Tabulated n tables blocks) : Tabulated n tables (b :: blocks)
  | table {n : Nat} {table : List Node} {tables : List (List Node)} {cells blocks : List Block}
    (hcells : List.Forall₂ Lengthens (Table.cellBlocks n table) cells)
    (h : Tabulated (n + 1) tables blocks) : Tabulated n (table :: tables) (cells ++ blocks)

theorem lengthens_refl (b : Block) : b.Lengthens b := ⟨0, by simp [appendText]⟩

theorem Lengthens.appendBreak {b b' : Block} (h : b.Lengthens b') :
    b.Lengthens (b'.appendText ['\n']) := by
  obtain ⟨k, rfl⟩ := h
  refine ⟨k + 1, ?_⟩
  simp [appendText, List.replicate_succ']

theorem Lengthens.cell_eq {b b' : Block} (h : b.Lengthens b') : b'.cell? = b.cell? := by
  obtain ⟨k, rfl⟩ := h
  rfl

/-- A line break behind the last block changes nothing that does not mind a line break. -/
theorem forall₂_appendBreak {α : Type} {R : α → Block → Prop}
    (hR : ∀ a b, R a b → R a (b.appendText ['\n'])) {as : List α} {init : List Block} {b : Block}
    (h : List.Forall₂ R as (init ++ [b])) :
    List.Forall₂ R as (init ++ [b.appendText ['\n']]) := by
  induction init generalizing as with
  | nil =>
    obtain _ | ⟨hb, hnil⟩ := h
    exact .cons (hR _ _ hb) hnil
  | cons c init ih =>
    obtain _ | ⟨hc, hinit⟩ := h
    exact .cons hc (ih hinit)

namespace Tabulated

theorem append {n m : Nat} {tables more : List (List Node)} {blocks moreBlocks : List Block}
    (h : Tabulated n tables blocks) (hm : n + tables.length = m)
    (hmore : Tabulated m more moreBlocks) :
    Tabulated n (tables ++ more) (blocks ++ moreBlocks) := by
  induction h with
  | nil n =>
    obtain rfl : n = m := hm
    exact hmore
  | plain hplain _ ih => exact .plain hplain (ih hm)
  | @table n table tables cells blocks hcells _ ih =>
    have hnext : n + 1 + tables.length = m := by
      rw [List.length_cons] at hm
      omega
    rw [List.append_assoc]
    exact .table hcells (ih hnext)

theorem of_plain (n : Nat) {blocks : List Block} (h : ∀ b ∈ blocks, b.cell? = none) :
    Tabulated n [] blocks := by
  induction blocks with
  | nil => exact .nil n
  | cons b blocks ih =>
    obtain ⟨hb, hblocks⟩ := List.forall_mem_cons.mp h
    exact .plain hb (ih hblocks)

theorem of_table (n : Nat) (table : List Node) :
    Tabulated n [table] (Table.cellBlocks n table) := by
  have hcells : List.Forall₂ Lengthens (Table.cellBlocks n table) (Table.cellBlocks n table) :=
    List.forall₂_same.mpr fun b _ => lengthens_refl b
  have htable := Tabulated.table hcells (.nil (n + 1))
  rwa [List.append_nil] at htable

theorem append_plain {n : Nat} {tables : List (List Node)} {blocks more : List Block}
    (h : Tabulated n tables blocks) (hmore : ∀ b ∈ more, b.cell? = none) :
    Tabulated n tables (blocks ++ more) := by
  have happend := h.append rfl (of_plain _ hmore)
  rwa [List.append_nil] at happend

/-- The last block may get a line break, whether it is a cell or not. -/
theorem appendBreak {n : Nat} {tables : List (List Node)} {init : List Block} {b : Block}
    (h : Tabulated n tables (init ++ [b])) :
    Tabulated n tables (init ++ [b.appendText ['\n']]) := by
  generalize hblocks : init ++ [b] = blocks at h
  induction h generalizing init with
  | nil n => exact absurd hblocks (by simp)
  | plain hplain htail ih =>
    cases init with
    | nil =>
      obtain ⟨rfl, rfl⟩ := List.cons.inj hblocks
      exact .plain hplain htail
    | cons c init =>
      obtain ⟨rfl, htail⟩ := List.cons.inj hblocks
      exact .plain hplain (ih htail)
  | @table n table tables cells blocks hcells htail ih =>
    rcases List.eq_nil_or_concat blocks with rfl | ⟨front, last, rfl⟩
    · -- The last block is a cell of this table.
      rw [List.append_nil] at hblocks
      rw [← hblocks] at hcells
      have htable := Tabulated.table (forall₂_appendBreak (fun _ _ hb => hb.appendBreak) hcells) htail
      rwa [List.append_nil] at htable
    · rw [List.concat_eq_append, ← List.append_assoc] at hblocks
      obtain ⟨rfl, hlast⟩ := List.append_inj' hblocks rfl
      obtain rfl := List.singleton_inj.mp hlast
      rw [List.append_assoc]
      exact .table hcells (ih (List.concat_eq_append ..).symm)

end Tabulated

end Block

namespace Table

theorem cell?_captionBlocks (around : Surroundings) (table : List Node) :
    ∀ b ∈ captionBlocks around table, b.cell? = none := by
  intro b hb
  obtain ⟨node, -, hnode⟩ := List.mem_filterMap.mp hb
  cases node with
  | text content => exact absurd hnode (by simp)
  | special kind content => exact absurd hnode (by simp)
  | element tag attributes children =>
    simp only at hnode
    split at hnode
    · rw [← Option.some.inj hnode]
    · exact absurd hnode (by simp)

end Table

namespace Extraction

structure Tabulates (e : Extraction) (tables : List (List Node)) : Prop where
  count_eq : e.tableCount = tables.length
  tabulated : Block.Tabulated 0 tables e.blocks

section Steps

variable {e : Extraction} {tables : List (List Node)}

theorem Tabulates.of_eq {e' : Extraction} (h : e.Tabulates tables) (hblocks : e'.blocks = e.blocks)
    (hcount : e'.tableCount = e.tableCount) : e'.Tabulates tables := by
  refine ⟨hcount.trans h.count_eq, ?_⟩
  rw [hblocks]
  exact h.tabulated

theorem Tabulates.addBlock (h : e.Tabulates tables) {block : Block} (hplain : block.cell? = none) :
    (e.addBlock block).Tabulates tables :=
  ⟨h.count_eq, h.tabulated.append_plain (by simpa using hplain)⟩

theorem Tabulates.flushLoose (h : e.Tabulates tables) (around : Surroundings) :
    (e.flushLoose around).Tabulates tables := by
  have hcleared : ({ e with loose := {}, gap := false } : Extraction).Tabulates tables :=
    h.of_eq rfl rfl
  simp only [Extraction.flushLoose]
  split
  · exact hcleared
  · exact hcleared.addBlock rfl

theorem Tabulates.addLineBreak (h : e.Tabulates tables) : e.addLineBreak.Tabulates tables := by
  rw [Extraction.addLineBreak]
  cases hlast : e.blocks.getLast? with
  | none => exact h
  | some block =>
    obtain ⟨init, hinit⟩ := List.getLast?_eq_some_iff.mp hlast
    have htabulated := h.tabulated
    rw [hinit] at htabulated
    refine ⟨h.count_eq, ?_⟩
    show Block.Tabulated 0 tables (e.blocks.dropLast ++ [block.appendText ['\n']])
    rw [hinit, List.dropLast_concat]
    exact htabulated.appendBreak

theorem Tabulates.addLooseText (h : e.Tabulates tables) (raw : Text) :
    (e.addLooseText raw).Tabulates tables := by
  simp only [Extraction.addLooseText]
  split
  · split
    · exact h
    · exact h.of_eq rfl rfl
  · exact h.of_eq rfl rfl

theorem Tabulates.addLooseElement (h : e.Tabulates tables) (around : Surroundings) (tag : String)
    (attributes : Attributes) (children : List Node) :
    (e.addLooseElement around tag attributes children).Tabulates tables := by
  simp only [Extraction.addLooseElement]
  split
  · split
    · exact h.of_eq rfl rfl
    · exact h
  · exact h.of_eq rfl rfl

theorem Tabulates.addListItem (h : e.Tabulates tables) (ordered : Bool) (level : Nat) (tag : String)
    (attributes : Attributes) (children : List Node) :
    (e.addListItem ordered level tag attributes children).Tabulates tables := by
  have hcounted : ({ e with
      counters := e.counters.set ordered level (e.counters ordered level + 1) } :
        Extraction).Tabulates tables :=
    h.of_eq rfl rfl
  exact hcounted.addBlock rfl

theorem Tabulates.addTable (h : e.Tabulates tables) (around : Surroundings) (table : List Node) :
    (e.addTable around table).Tabulates (tables ++ [table]) := by
  have hcount := h.count_eq
  have hcaptions := h.tabulated.append_plain (Table.cell?_captionBlocks around table)
  have hcells := Block.Tabulated.of_table e.tableCount table
  have hnumber : 0 + tables.length = e.tableCount := by omega
  constructor
  · show e.tableCount + 1 = _
    rw [List.length_append, List.length_singleton, hcount]
  · exact hcaptions.append hnumber hcells

theorem Tabulates.addWhole (h : e.Tabulates tables) (around : Surroundings) (tag : String)
    (attributes : Attributes) (children : List Node) :
    (e.addWhole around tag attributes children).Tabulates tables := by
  have hflushed := h.flushLoose around
  simp only [Extraction.addWhole]
  split
  · exact hflushed.addBlock rfl
  · split
    · split
      · exact hflushed
      · exact hflushed.addBlock rfl
    · exact h.addLooseElement around tag attributes children

end Steps

mutual

theorem Tabulates.visit {e : Extraction} {tables : List (List Node)} (h : e.Tabulates tables)
    (around : Surroundings) (node : Node) :
    (visit around node e).Tabulates (tables ++ node.tables) := by
  match node with
  | .text content =>
    rw [Extraction.visit, Node.tables, List.append_nil]
    exact h.addLooseText content
  | .special _ _ =>
    rw [Extraction.visit, Node.tables, List.append_nil]
    exact h
  | .element tag attributes children =>
    have hflushed := h.flushLoose around
    rw [visit_element, Node.tables]
    cases Route.of tag children with
    | hidden =>
      simp only [List.append_nil]
      exact h
    | lineBreak =>
      simp only [List.append_nil]
      exact hflushed.addLineBreak
    | whole =>
      simp only [List.append_nil]
      exact h.addWhole around tag attributes children
    | list =>
      have hstarted : ((e.flushLoose around).startList
          (Text.lowerName tag == "ol") 0).Tabulates tables := hflushed.of_eq rfl rfl
      exact (hstarted.visitList _ _ 0 children).flushLoose around
    | table => exact hflushed.addTable around children
    | rule =>
      simp only [List.append_nil]
      exact hflushed
    | entered =>
      have hinner := hflushed.visitAll (around.inside tag) children
      simp only [enter]
      split
      · exact hinner.flushLoose _
      · exact hinner

theorem Tabulates.visitAll {e : Extraction} {tables : List (List Node)} (h : e.Tabulates tables)
    (around : Surroundings) (nodes : List Node) :
    (visitAll around nodes e).Tabulates (tables ++ Node.tablesAll nodes) := by
  match nodes with
  | [] =>
    rw [Extraction.visitAll, Node.tablesAll, List.append_nil]
    exact h
  | node :: nodes =>
    rw [Extraction.visitAll, Node.tablesAll, ← List.append_assoc]
    exact (h.visit around node).visitAll around nodes

theorem Tabulates.visitList {e : Extraction} {tables : List (List Node)} (h : e.Tabulates tables)
    (around : Surroundings) (ordered : Bool) (level : Nat) (nodes : List Node) :
    (visitList around ordered level nodes e).Tabulates (tables ++ Node.tablesList nodes) := by
  match nodes with
  | [] =>
    rw [Extraction.visitList, Node.tablesList, List.append_nil]
    exact h
  | .text content :: nodes =>
    rw [Extraction.visitList, Node.tablesList]
    have hfirst := h.visit around (.text content)
    rw [Node.tables, List.append_nil] at hfirst
    exact hfirst.visitList around ordered level nodes
  | .special kind content :: nodes =>
    rw [Extraction.visitList, Node.tablesList]
    have hfirst := h.visit around (.special kind content)
    rw [Node.tables, List.append_nil] at hfirst
    exact hfirst.visitList around ordered level nodes
  | .element tag attributes children :: nodes =>
    have hflushed := h.flushLoose around
    rw [Extraction.visitList, Node.tablesList, ← List.append_assoc]
    refine Tabulates.visitList ?_ around ordered level nodes
    split
    · have hitem := hflushed.addListItem ordered level tag attributes children
      exact hitem.visitSublists _ level children
    · split
      · have hstarted : ((e.flushLoose around).startList
            (Text.lowerName tag == "ol") (level + 1)).Tabulates tables := hflushed.of_eq rfl rfl
        exact (hstarted.visitList _ _ (level + 1) children).flushLoose around
      · exact h.visit around (.element tag attributes children)

theorem Tabulates.visitSublists {e : Extraction} {tables : List (List Node)}
    (h : e.Tabulates tables) (around : Surroundings) (level : Nat) (nodes : List Node) :
    (visitSublists around level nodes e).Tabulates (tables ++ Node.tablesSublists nodes) := by
  match nodes with
  | [] =>
    rw [Extraction.visitSublists, Node.tablesSublists, List.append_nil]
    exact h
  | .text _ :: nodes =>
    rw [Extraction.visitSublists, Node.tablesSublists]
    exact h.visitSublists around level nodes
  | .special _ _ :: nodes =>
    rw [Extraction.visitSublists, Node.tablesSublists]
    exact h.visitSublists around level nodes
  | .element tag attributes children :: nodes =>
    rw [Extraction.visitSublists, Node.tablesSublists, ← List.append_assoc]
    refine Tabulates.visitSublists ?_ around level nodes
    split
    · have hstarted : (e.startList (Text.lowerName tag == "ol") (level + 1)).Tabulates tables :=
        h.of_eq rfl rfl
      exact (hstarted.visitList _ _ (level + 1) children).flushLoose around
    · rw [List.append_nil]
      exact h

end

theorem tabulates_empty : Tabulates {} [] := ⟨rfl, .nil 0⟩

end Extraction

/-- The blocks of a tree are tabulated by the tables that the walk takes apart. -/
theorem Block.tabulated_ofRoot (root : Root) : Tabulated 0 root.tables (ofRoot root) := by
  cases root with
  | document children =>
    have hall := Extraction.tabulates_empty.visitAll {} children
    exact (hall.flushLoose {}).tabulated
  | element place tag attributes children =>
    have hnode := Extraction.tabulates_empty.visit { textKind := place }
      (.element tag attributes children)
    exact (hnode.flushLoose { textKind := place }).tabulated

end MarkupCompiler

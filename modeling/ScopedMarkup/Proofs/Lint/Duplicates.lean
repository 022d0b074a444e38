import ScopedMarkup.Proofs.Lint.Offence
import ScopedMarkup.Proofs.Markup.Fault
import ScopedMarkup.Proofs.Markup.Piece
import ScopedMarkup.Proofs.Markup.RoundTrip
import ScopedMarkup.Proofs.Markup.Strictness

/-! # Repeated attributes

Strict reading looks for repeated attributes tag by tag and stops at the first; the
check looks for them in a tree that is there. Both go by the same thing: whether the
names in a tag are distinct.
-/

namespace ScopedMarkup

open Markup

namespace Markup

/-! ## Trees of strict reading -/

namespace Node

variable {config : Config} {σ : Type}

theorem distinct_of_formedAttributes {attributes : List Attribute} (strict : config.strict = true)
    (formed : FormedAttributes config attributes) : Attribute.Distinct attributes :=
  List.pairwise_map.mpr (formed.distinct strict)

mutual
theorem distinct_of_formed (strict : config.strict = true) : ∀ {node : Node σ} {depth : Nat},
    node.Formed config depth → ∀ below ∈ node.walk, Attribute.Distinct below.attributes
  | .element .., _, ⟨_, _, _, formed, _, all⟩ =>
      forall_walk_element_iff.mpr
        ⟨distinct_of_formedAttributes strict formed, distinct_of_formedAll strict all⟩
  | .style .., _, formed =>
      List.forall_mem_singleton.mpr (distinct_of_formedAttributes strict formed.2)
  | .text _, _, _ | .slot _, _, _ => List.forall_mem_singleton.mpr List.nodup_nil

/-- Formed by strict reading, nodes have distinct attributes. -/
theorem distinct_of_formedAll (strict : config.strict = true) :
    ∀ {nodes : List (Node σ)} {depth : Nat}, FormedAll config depth nodes →
      Everywhere (fun below => Attribute.Distinct below.attributes) nodes
  | [], _, _ => everywhere_nil
  | _ :: _, _, ⟨here, after⟩ =>
      everywhere_cons_iff.mpr ⟨distinct_of_formed strict here, distinct_of_formedAll strict after⟩
end

end Node

theorem distinct_of_read {config : Config} {source : Text} {tree : Node Css.Selector}
    (strict : config.strict = true) (found : read config source = .ok tree) :
    ∀ below ∈ tree.walk, Attribute.Distinct below.attributes := by
  rcases exists_formed_of_read found with ⟨nodes, rfl, -, all⟩
  exact (Node.forall_walk_ofTop_iff List.nodup_nil).mpr (Node.distinct_of_formedAll strict all)

/-! ## Where strict reading stops -/

/-- The attributes of the tag that a piece begins with. -/
def Piece.attributes : Piece → List Attribute
  | .whole node => node.attributes
  | .opening _ attributes => attributes
  | .closing => []

variable {tight loose config : Config} {text rest : Text} {fault : Fault} {piece : Piece}

theorem prefix_of_readAttributes {before : List Attribute} {found : TagEnd}
    (read : readAttributes config before text = .ok found) : before <+: found.attributes := by
  fun_induction readAttributes config before text with
  | case1 | case2 =>
      cases read
      exact List.prefix_rfl
  | case3 | case4 => cases read
  | case5 before text trimmed entry rest readOne _ _ _ induction =>
      exact (List.prefix_append before [entry]).trans (induction read)

/-- Where one run stops at attributes that another one reads, these repeat a name. -/
theorem not_distinct_of_readAttributes {text : Text} {before : List Attribute} {found : TagEnd}
    (failed : readAttributes tight before text = .error fault)
    (read : readAttributes loose before text = .ok found) :
    ¬ Attribute.Distinct found.attributes := by
  by_cases selfClose : (Token.first text.trimStart).kind = .selfClose
  · rw [readAttributes, selfClose] at failed
    cases failed
  · by_cases greaterThan : (Token.first text.trimStart).kind = .greaterThan
    · rw [readAttributes, greaterThan] at failed
      cases failed
    · rw [readAttributes_eq selfClose greaterThan] at failed read
      cases readOne : readAttribute text.trimStart with
      | error fault =>
          rw [readOne] at read
          cases read
      | ok entry =>
          rw [readOne] at failed read
          simp only at failed read
          have goesOn : readAttributes loose (before ++ [entry.1]) entry.2 = .ok found := by
            split at read
            · cases read
            · exact read
          split at failed
          · rename_i repeated
            have twice : ∃ other ∈ before, other.name = entry.1.name := by
              simpa using (Bool.and_eq_true_iff.mp repeated).2
            rcases twice with ⟨other, member, same⟩
            intro distinct
            have front := (prefix_of_readAttributes goesOn).sublist.map Attribute.name
            rw [List.map_append] at front
            exact (List.nodup_append.mp (distinct.sublist front)).2.2 _
              (List.mem_map_of_mem member) _ List.mem_cons_self same
          · exact not_distinct_of_readAttributes failed goesOn
termination_by text.length
decreasing_by
  exact Nat.lt_of_lt_of_le (readAttribute_suffix readOne).2
    (List.dropWhile_suffix isBlank).length_le

/-- The attributes of an element are those of its open tag. -/
theorem attributes_of_readElement (read : readElement config text = .ok (piece, rest)) :
    ∃ tag afterName found, readName text = .ok (tag, afterName) ∧
      readAttributes config [] afterName = .ok found ∧ piece.attributes = found.attributes := by
  cases elementRead_of_readElement read with
  | emptyStyle named ended => exact ⟨_, _, _, named, ended, rfl⟩
  | style named ended => exact ⟨_, _, _, named, ended, rfl⟩
  | empty named _ ended => exact ⟨_, _, _, named, ended, rfl⟩
  | opening named _ ended => exact ⟨_, _, _, named, ended, rfl⟩

theorem duplicate_of_readElement (failed : readElement config text = .error fault)
    (repeats : fault.cause.IsDuplicate) :
    ∃ tag afterName, readName text = .ok (tag, afterName) ∧
      readAttributes config [] afterName = .error fault := by
  cases elementFails_of_readElement failed with
  | name unnamed => exact absurd repeats (foundIn_of_readName unnamed).not_isDuplicate
  | attributes named wrong => exact ⟨_, _, named, wrong⟩
  | style _ _ stopped =>
      rcases foundIn_of_readStyle stopped with found | ⟨body, rest, reason, index, -, -, -, rfl⟩
      · exact absurd repeats found.not_isDuplicate
      · rcases repeats with ⟨name, cause⟩
        cases cause

/-- Only an open tag can repeat an attribute. -/
theorem duplicate_of_readPiece {openTags : List Text}
    (failed : readPiece config openTags text = .error fault)
    (repeats : fault.cause.IsDuplicate) :
    (Token.first text).kind = .lessThan ∧ readElement config (Token.rest text) = .error fault := by
  cases pieceFails_of_readPiece failed with
  | slot _ unclosed => exact absurd repeats (foundIn_of_expect unclosed).not_isDuplicate
  | tooDeep =>
      rcases repeats with ⟨name, cause⟩
      cases cause
  | element opens _ stopped => exact ⟨opens, stopped⟩
  | unopened =>
      exact absurd repeats (Fault.FoundIn.unexpected (List.suffix_refl text)).not_isDuplicate
  | closing _ _ wrong => exact absurd repeats (foundIn_of_readClosing wrong).not_isDuplicate

/-- The piece at which one run stops for a repeated attribute repeats it in another run
that goes on. -/
theorem not_distinct_of_readPiece {openTags : List Text}
    (failed : readPiece tight openTags text = .error fault)
    (repeats : fault.cause.IsDuplicate)
    (read : readPiece loose openTags text = .ok (piece, rest)) :
    ¬ Attribute.Distinct piece.attributes := by
  rcases duplicate_of_readPiece failed repeats with ⟨opens, stopped⟩
  rcases duplicate_of_readElement stopped repeats with ⟨tag, afterName, named, wrong⟩
  simp only [readPiece, opens] at read
  split at read
  · cases read
  · rcases attributes_of_readElement read with ⟨other, after, found, named', ended, equal⟩
    cases named.symm.trans named'
    rw [equal]
    exact not_distinct_of_readAttributes wrong ended

/-! ## Pieces and nodes -/

theorem mem_expanded_attributes (piece : Piece) (repeats : ¬ Attribute.Distinct piece.attributes) :
    ∃ part ∈ piece.expanded, ¬ Attribute.Distinct part.attributes := by
  cases piece with
  | opening tag attributes => exact ⟨_, List.mem_cons_self, repeats⟩
  | closing => exact absurd List.nodup_nil repeats
  | whole node =>
      cases node with
      | element tag attributes children => exact ⟨_, List.mem_cons_self, repeats⟩
      | style attributes sheet => exact ⟨_, List.mem_cons_self, repeats⟩
      | text _ | slot _ | fragment _ | foreign _ => exact absurd List.nodup_nil repeats

namespace Node

mutual
theorem distinct_pieces : ∀ (node : Node Css.Selector),
    (∀ below ∈ node.walk, Attribute.Distinct below.attributes) →
      ∀ part ∈ node.pieces, Attribute.Distinct part.attributes
  | .element tag attributes children, distinct => by
      rcases forall_walk_element_iff.mp distinct with ⟨here, below⟩
      refine List.forall_mem_append.mpr ⟨List.forall_mem_cons.mpr ⟨here, ?_⟩, ?_⟩
      · exact distinct_piecesAll children below
      · exact List.forall_mem_singleton.mpr List.nodup_nil
  | .fragment children, distinct =>
      distinct_piecesAll children (List.forall_mem_cons.mp distinct).2
  | .style .., distinct => List.forall_mem_singleton.mpr (distinct _ List.mem_cons_self)
  | .text _, _ | .slot _, _ | .foreign _, _ => List.forall_mem_singleton.mpr List.nodup_nil

/-- No piece of nodes with distinct attributes repeats one. -/
theorem distinct_piecesAll : ∀ (nodes : List (Node Css.Selector)),
    Everywhere (fun below => Attribute.Distinct below.attributes) nodes →
      ∀ part ∈ piecesAll nodes, Attribute.Distinct part.attributes
  | [], _ => List.forall_mem_nil _
  | node :: rest, distinct => by
      rcases everywhere_cons_iff.mp distinct with ⟨here, after⟩
      exact List.forall_mem_append.mpr ⟨distinct_pieces node here, distinct_piecesAll rest after⟩
end

end Node

/-- The tree of a run repeats an attribute if a run with stricter settings stops for one. -/
theorem not_distinct_of_readFrom {tree : Node Css.Selector} {source : Text}
    (stricter : tight.Stricter loose) (failed : readFrom tight .start source = .error fault)
    (repeats : fault.cause.IsDuplicate)
    (read : readFrom loose .start source = .ok tree) :
    ¬ ∀ below ∈ tree.walk, Attribute.Distinct below.attributes := by
  rcases Reached.start.exists_of_error failed with
    ⟨last, text, reached, ⟨-, rfl⟩ | ⟨nonempty, stopped⟩⟩
  · exact absurd repeats (Fault.FoundIn.unexpected (List.suffix_refl [])).not_isDuplicate
  · rw [(reached.loosen stricter).readFrom_eq, readFrom_eq nonempty] at read
    cases readOne : readPiece loose last.openTags text.trimStart with
    | error other =>
        rw [readOne] at read
        cases read
    | ok found =>
        rcases found with ⟨piece, following⟩
        rw [readOne] at read
        intro distinct
        have repeated := not_distinct_of_readPiece stopped repeats readOne
        rcases mem_expanded_attributes piece repeated with ⟨part, member, repeats⟩
        have front := pieces_prefix_of_readFrom read
        rw [pieces_add_of_readPiece (Text.leaves_dropWhile isBlank text) nonempty readOne] at front
        exact repeats (Node.distinct_pieces tree distinct part
          (front.subset (List.mem_append_right _ member)))

end Markup

namespace Lint

/-- The check and strict reading agree on repeated attributes in a source that lenient
reading accepts: a finding keeps strict reading from accepting it, an attribute that
strict reading refuses as repeated is found, and nothing is found in what strict reading
accepts. -/
theorem duplicateAttributes_of_read {config : Config} {source : Text}
    {tree : Node Css.Selector} (found : read { config with strict := false } source = .ok tree) :
    (Check.duplicateAttributes.findings tree ≠ [] →
      ∃ error, read { config with strict := true } source = .error error ∧
        ((∃ name, error.cause = .duplicateAttribute name) ∨
          ∃ closing opening, error.cause = .mismatchedClose closing opening)) ∧
    (∀ error name, read { config with strict := true } source = .error error →
      error.cause = .duplicateAttribute name → Check.duplicateAttributes.findings tree ≠ []) ∧
    ∀ strictTree, read { config with strict := true } source = .ok strictTree →
      Check.duplicateAttributes.findings strictTree = [] := by
  have stricter : Config.Stricter { config with strict := true } { config with strict := false } :=
    ⟨fun _ => rfl, Nat.le_refl _⟩
  have accepted : ∀ strictTree, read { config with strict := true } source = .ok strictTree →
      Check.duplicateAttributes.findings strictTree = [] := fun strictTree readStrict =>
    findings_eq_nil_iff.mpr (distinct_of_read rfl readStrict)
  refine ⟨fun present => ?_, fun error name failed cause => ?_, accepted⟩
  · rcases agree_read stricter source with same | ⟨error, failed, own⟩
    · exact absurd (accepted tree (same.trans found)) present
    · exact ⟨error, failed, (own.of_same_depth rfl).symm⟩
  · have repeats : ¬ ∀ below ∈ tree.walk, Attribute.Distinct below.attributes := by
      rcases read_eq_error_iff.mp failed with ⟨fault, stopped, rfl⟩
      exact not_distinct_of_readFrom stricter stopped ⟨name, cause⟩ (read_eq_ok_iff.mp found)
    exact fun nothing => repeats (findings_eq_nil_iff.mp nothing)

/-- A wrong closing tag can hide a repeated attribute from strict reading, not from the
check. -/
theorem duplicateAttributes_of_read_behind_wrong_close :
    (∃ error, read { Config.standard with strict := true } "<a></b><c d d/>" = .error error ∧
      ((∃ name, error.cause = .duplicateAttribute name) ∨
        ∃ closing opening, error.cause = .mismatchedClose closing opening)) ∧
    Check.duplicateAttributes.findings (.style [⟨"e", none⟩, ⟨"e", some "f"⟩] {}) ≠ [] := by
  have behind : read { Config.standard with strict := false } "<a></b><c d d/>" =
      .ok (.fragment [.element "a" [] [], .element "c" [⟨"d", none⟩, ⟨"d", none⟩] []]) := by
    decide +kernel
  have inStyle : read { Config.standard with strict := false } "<style e e='f'/>" =
      .ok (.style [⟨"e", none⟩, ⟨"e", some "f"⟩] {}) := by decide +kernel
  have stops : read { Config.standard with strict := true } "<style e e='f'/>" =
      .error ⟨.duplicateAttribute "e", ⟨9, 9, ⟨1, 10⟩⟩⟩ := by decide +kernel
  exact ⟨(duplicateAttributes_of_read behind).1 (by decide +kernel),
    (duplicateAttributes_of_read inStyle).2.1 _ _ stops rfl⟩

end Lint

end ScopedMarkup

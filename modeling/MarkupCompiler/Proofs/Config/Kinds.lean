import MarkupCompiler.Config.Update

/-!
# Kinds of styles in a configuration

There are three options for styles, and each has a kind. It can be laid over the styles of blocks if
it is unset or holds a style of its kind.
-/

namespace MarkupCompiler

namespace OptionValue

/-- Whether an option can be laid over paragraph styles: it is unset or holds one of them. -/
def isForParagraphs : OptionValue → Bool
  | .unset => true
  | .paragraphStyle _ => true
  | _ => false

/-- Whether an option can be laid over text styles: it is unset or holds one of them. -/
def isForText : OptionValue → Bool
  | .unset => true
  | .textStyle _ => true
  | _ => false

theorem exists_overParagraph {o : OptionValue} (h : o.isForParagraphs = true)
    (base : ParagraphStyle) : ∃ style, o.overParagraph base = .ok style := by
  cases o with
  | unset => exact ⟨base, rfl⟩
  | paragraphStyle top => exact ⟨base.merged top, rfl⟩
  | textStyle top => exact absurd h Bool.false_ne_true
  | scalar value => exact absurd h Bool.false_ne_true

theorem exists_overText {o : OptionValue} (h : o.isForText = true) (base : TextStyle) :
    ∃ style, o.overText base = .ok style := by
  cases o with
  | unset => exact ⟨base, rfl⟩
  | textStyle top => exact ⟨base.merged top, rfl⟩
  | paragraphStyle top => exact absurd h Bool.false_ne_true
  | scalar value => exact absurd h Bool.false_ne_true

end OptionValue

namespace Config

structure HoldsStyles (config : Config) : Prop where
  paragraph : config.paragraphDefault.isForParagraphs = true
  heading : config.headingDefault.isForParagraphs = true
  text : config.textDefault.isForText = true

end Config

inductive StyleOption where
  | paragraph
  | heading
  | text
  deriving DecidableEq, Repr

namespace StyleOption

def name : StyleOption → String
  | .paragraph => Config.paragraphName
  | .heading => Config.headingName
  | .text => Config.textName

def value (config : Config) : StyleOption → OptionValue
  | .paragraph => config.paragraphDefault
  | .heading => config.headingDefault
  | .text => config.textDefault

def set (config : Config) (value : OptionValue) : StyleOption → Config
  | .paragraph => { config with paragraphDefault := value }
  | .heading => { config with headingDefault := value }
  | .text => { config with textDefault := value }

def accepts (value : OptionValue) : StyleOption → Bool
  | .text => value.isForText
  | _ => value.isForParagraphs

theorem name_injective {o o' : StyleOption} (h : o.name = o'.name) : o = o' := by
  cases o <;> cases o' <;> first | rfl | exact absurd h (by decide)

@[simp] theorem value_set_self (o : StyleOption) (config : Config) (value : OptionValue) :
    o.value (o.set config value) = value := by
  cases o <;> rfl

theorem value_set_of_ne {o o' : StyleOption} (h : o' ≠ o) (config : Config) (value : OptionValue) :
    o'.value (o.set config value) = o'.value config := by
  cases o <;> cases o' <;> first | rfl | exact absurd rfl h

end StyleOption

theorem Config.holdsStyles_iff {config : Config} :
    config.HoldsStyles ↔ ∀ o : StyleOption, o.accepts (o.value config) = true := by
  constructor
  · intro h o
    cases o with
    | paragraph => exact h.paragraph
    | heading => exact h.heading
    | text => exact h.text
  · intro h
    exact ⟨h .paragraph, h .heading, h .text⟩

end MarkupCompiler

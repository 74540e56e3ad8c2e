import Mathlib.Logic.Function.Basic
import Keyring.Config
import Keyring.Proofs.Amount
import Keyring.Proofs.Text.Blank

/-! What a configuration takes from the variables. Each setting has a variable of its own, whose trimmed text it
follows if the text makes sense; a text that does not leaves it as if the variable were unset. So every configuration
can be used, and no variable has a part in the setting of another. -/
namespace Keyring.Config

open Text

inductive Setting where
  | dataPath
  | logFormat
  | apiKey
  | mainnetUrl
  | testnetUrl
  | timeout
deriving DecidableEq

/-- Decimal digits, perhaps behind a plus, stand for a number. -/
def Counts (text : String) (n : Nat) : Prop :=
  ∃ digits, (text = digits ∨ text = "+" ++ digits) ∧ Amount.Spells digits n

/-- The configuration without any variable. -/
def standard : Config where
  dataPath := "./data/kms.redb"
  tronGrid := ⟨"https://api.trongrid.io", "https://api.shasta.trongrid.io", none, 5⟩
  logFormat := .pretty

/-- Whatever the variables were, these hold. -/
structure Usable (c : Config) : Prop where
  dataPath : c.dataPath ≠ "" ∧ Trimmed c.dataPath
  apiKey : ∀ key ∈ c.tronGrid.apiKey, key ≠ "" ∧ Trimmed key
  timeout : 0 < c.tronGrid.timeoutSeconds

namespace Setting

/-- The variable of a setting. -/
def source : Setting → String
  | dataPath => "KMS_DATA_PATH"
  | logFormat => "LOG_FORMAT"
  | apiKey => "TRONGRID_API_KEY"
  | mainnetUrl => "TRONGRID_MAINNET_URL"
  | testnetUrl => "TRONGRID_TESTNET_URL"
  | timeout => "TRONGRID_TIMEOUT_SECS"

/-- The text makes sense for the setting. -/
def Accepts (text : String) : Setting → Prop
  | dataPath | apiKey => text ≠ ""
  | logFormat => text.toList.map Char.toLower = "json".toList
  | mainnetUrl | testnetUrl => Url.isWeb text = true
  | timeout => ∃ n, Counts text n ∧ 0 < n ∧ n < 2 ^ 64

/-- The setting is what the text says. -/
def Follows (c : Config) (text : String) : Setting → Prop
  | dataPath => c.dataPath = text
  | logFormat => c.logFormat = .json
  | apiKey => c.tronGrid.apiKey = some text
  | mainnetUrl => c.tronGrid.mainnetUrl = text
  | testnetUrl => c.tronGrid.testnetUrl = text
  | timeout => ∀ n, Counts text n → c.tronGrid.timeoutSeconds = n

/-- Two configurations have the same value for the setting. -/
def Agrees (c c' : Config) : Setting → Prop
  | dataPath => c.dataPath = c'.dataPath
  | logFormat => c.logFormat = c'.logFormat
  | apiKey => c.tronGrid.apiKey = c'.tronGrid.apiKey
  | mainnetUrl => c.tronGrid.mainnetUrl = c'.tronGrid.mainnetUrl
  | testnetUrl => c.tronGrid.testnetUrl = c'.tronGrid.testnetUrl
  | timeout => c.tronGrid.timeoutSeconds = c'.tronGrid.timeoutSeconds

theorem Agrees.of_standard {setting : Setting} {c c' d : Config} (h : setting.Agrees c d) (h' : setting.Agrees c' d) :
    setting.Agrees c c' := by
  cases setting <;> exact Eq.trans h (Eq.symm h')

theorem source_injective {a b : Setting} (h : a.source = b.source) : a = b := by
  have hsource : ∀ a b : Setting, a.source = b.source → a = b := by
    intro a b
    cases a <;> cases b <;> decide
  exact hsource a b h

end Setting

/-- Two values of a variable differ only in the white space at their ends, or one is blank and the other unset. -/
inductive Respaced : Option String → Option String → Prop
  | same (v : Option String) : Respaced v v
  | added {s t : String} (h : Padded t s) : Respaced (some t) (some s)
  | removed {s t : String} (h : Padded t s) : Respaced (some s) (some t)
  | cleared {s : String} (h : Blank s.toList) : Respaced (some s) none
  | filled {s : String} (h : Blank s.toList) : Respaced none (some s)

/-! ### Texts of variables -/

theorem text?_eq_some_iff {v : Option String} {t : String} :
    text? v = some t ↔ (∃ s, v = some s ∧ trim s = t) ∧ t ≠ "" := by
  simp [text?, Option.filter_eq_some_iff]

theorem text?_blank {s : String} (h : Blank s.toList) : text? (some s) = none := by
  simp [text?, trim_eq_empty_iff.2 h]

theorem Respaced.text? {v v' : Option String} (h : Respaced v v') : text? v = text? v' := by
  cases h with
  | same => rfl
  | added h => rw [Config.text?, Config.text?, Option.map_some, Option.map_some, trim_of_padded h]
  | removed h => rw [Config.text?, Config.text?, Option.map_some, Option.map_some, trim_of_padded h]
  | cleared h => exact text?_blank h
  | filled h => exact (text?_blank h).symm

/-- The digits of a number, without the plus in front of them. -/
def unsigned : List Char → List Char
  | '+' :: rest => rest
  | cs => cs

theorem unsigned_digits {cs : List Char} (h : ∀ c ∈ cs, c.isDigit) : unsigned cs = cs := by
  rw [unsigned]
  rintro rest rfl
  exact absurd (h '+' List.mem_cons_self) (by decide)

theorem counts_iff {text : String} {n : Nat} :
    Counts text n ↔ Amount.Spells (String.ofList (unsigned text.toList)) n := by
  constructor
  · rintro ⟨digits, rfl | rfl, h⟩
    · rwa [unsigned_digits h.2.1, String.ofList_toList]
    · rwa [String.toList_append, show unsigned ("+".toList ++ digits.toList) = digits.toList from rfl,
        String.ofList_toList]
  · intro h
    by_cases hplus : ∃ rest, text.toList = '+' :: rest
    · obtain ⟨rest, hrest⟩ := hplus
      rw [hrest] at h
      refine ⟨String.ofList rest, .inr ?_, h⟩
      rw [← String.toList_inj, hrest, String.toList_append, String.toList_ofList, String.toList_ofList]
      rfl
    · rw [unsigned, String.ofList_toList] at h
      · exact ⟨text, .inl rfl, h⟩
      · exact fun rest hrest => hplus ⟨rest, hrest⟩

theorem Counts.unique {text : String} {m n : Nat} (hm : Counts text m) (hn : Counts text n) : m = n :=
  (counts_iff.1 hm).unique (counts_iff.1 hn)

theorem word?_eq_some_iff {text : String} {n : Nat} : word? text = some n ↔ Counts text n ∧ n < 2 ^ 64 := by
  have hword : word? text = Amount.below? (2 ^ 64) (String.ofList (unsigned text.toList)) := by
    rw [Amount.below?, Amount.decimal?, String.toList_ofList, apply_ite (Option.filter _), Option.filter_none]
    rfl
  rw [hword, Amount.below?_eq_some_iff, counts_iff]

/-! ### Settings -/

section

variable {lookup lookup' : String → Option String} {setting : Setting} {s : String}

/-- A setting has no more to go by than the trimmed text of its variable. -/
theorem agrees_of_text? (h : text? (lookup setting.source) = text? (lookup' setting.source)) :
    setting.Agrees (ofVariables lookup) (ofVariables lookup') := by
  cases setting <;> simp only [Setting.source] at h <;> simp only [Setting.Agrees, ofVariables, url, timeout, h]

theorem eq_of_agrees {c c' : Config} (h : ∀ setting : Setting, setting.Agrees c c') : c = c' := by
  obtain ⟨path, ⟨mainnet, testnet, key, seconds⟩, format⟩ := c
  obtain ⟨path', ⟨mainnet', testnet', key', seconds'⟩, format'⟩ := c'
  obtain rfl : path = path' := h .dataPath
  obtain rfl : mainnet = mainnet' := h .mainnetUrl
  obtain rfl : testnet = testnet' := h .testnetUrl
  obtain rfl : key = key' := h .apiKey
  obtain rfl : seconds = seconds' := h .timeout
  obtain rfl : format = format' := h .logFormat
  rfl

theorem Setting.not_accepts_empty (setting : Setting) : ¬ setting.Accepts "" := by
  cases setting with
  | dataPath => exact fun h => h rfl
  | apiKey => exact fun h => h rfl
  | logFormat => exact (by decide : ¬ "".toList.map Char.toLower = "json".toList)
  | mainnetUrl => exact (by decide : ¬ Url.isWeb "" = true)
  | testnetUrl => exact (by decide : ¬ Url.isWeb "" = true)
  | timeout =>
    rintro ⟨n, hn, -⟩
    exact absurd rfl (counts_iff.1 hn).1

theorem text?_of_accepts (h : setting.Accepts (trim s)) : text? (some s) = some (trim s) := by
  rw [text?_eq_some_iff]
  refine ⟨⟨s, rfl, rfl⟩, fun hempty => ?_⟩
  rw [hempty] at h
  exact setting.not_accepts_empty h

theorem timeout_eq {v : Option String} {text : String} {n : Nat} (ht : text? v = some text) (hn : Counts text n)
    (hpos : 0 < n) (hlt : n < 2 ^ 64) : timeout v = n := by
  rw [timeout, ht, Option.bind_some, word?_eq_some_iff.2 ⟨hn, hlt⟩, Option.filter_some_pos (by simpa using hpos),
    Option.getD_some]

/-- Without a number that makes sense, the timeout is five seconds. -/
theorem timeout_standard {v : Option String}
    (h : ∀ text, text? v = some text → ¬ ∃ n, Counts text n ∧ 0 < n ∧ n < 2 ^ 64) : timeout v = 5 := by
  have hnone : ((text? v).bind word?).filter (0 < ·) = none := by
    rw [Option.filter_eq_none_iff]
    intro n hn hpos
    obtain ⟨text, ht, hword⟩ := Option.bind_eq_some_iff.1 hn
    obtain ⟨hcounts, hlt⟩ := word?_eq_some_iff.1 hword
    exact h text ht ⟨n, hcounts, by simpa using hpos, hlt⟩
  rw [timeout, hnone]
  rfl

theorem timeout_pos (v : Option String) : 0 < timeout v := by
  by_cases h : ∃ text, text? v = some text ∧ ∃ n, Counts text n ∧ 0 < n ∧ n < 2 ^ 64
  · obtain ⟨text, ht, n, hn, hpos, hlt⟩ := h
    rwa [timeout_eq ht hn hpos hlt]
  · rw [timeout_standard fun text ht hn => h ⟨text, ht, hn⟩]
    decide

theorem url_of_isWeb {v : Option String} {text default : String} (ht : text? v = some text)
    (hweb : Url.isWeb text = true) : url v default = text := by
  rw [url, ht, Option.filter_some_pos hweb, Option.getD_some]

theorem url_standard {v : Option String} {default : String}
    (h : ∀ text, text? v = some text → ¬ Url.isWeb text = true) : url v default = default := by
  rw [url, Option.filter_eq_none_iff.2 h, Option.getD_none]

theorem logFormat_eq_json_iff {text : String} :
    LogFormat.parse text = .json ↔ (trim text).toList.map Char.toLower = "json".toList := by
  simp only [LogFormat.parse, beq_iff_eq, ite_eq_left_iff, reduceCtorEq, imp_false, Decidable.not_not]
  rw [← String.toList_inj, show (trim text).toLower = (trim text).map Char.toLower from rfl, String.toList_map]

/-- A text that makes sense is followed. -/
theorem follows_of_accepts (hs : lookup setting.source = some s) (h : setting.Accepts (trim s)) :
    setting.Follows (ofVariables lookup) (trim s) := by
  have ht := text?_of_accepts h
  rw [← hs] at ht
  cases setting with
  | dataPath => exact congrArg (Option.getD · defaultDataPath) ht
  | apiKey => exact ht
  | mainnetUrl => exact url_of_isWeb ht h
  | testnetUrl => exact url_of_isWeb ht h
  | timeout =>
    obtain ⟨n, hn, hpos, hlt⟩ := h
    have heq : (ofVariables lookup).tronGrid.timeoutSeconds = n := timeout_eq ht hn hpos hlt
    exact fun m hm => heq.trans (hn.unique hm)
  | logFormat =>
    have hjson : LogFormat.parse (trim s) = .json := by
      rw [logFormat_eq_json_iff, trim_trim]
      exact h
    rw [Setting.Follows, ofVariables, ← hjson]
    exact congrArg (fun t => (t.map LogFormat.parse).getD .pretty) ht

/-- A text that does not make sense, or none at all, leaves the setting as it is without variables. -/
theorem agrees_standard (h : ∀ s, lookup setting.source = some s → ¬ setting.Accepts (trim s)) :
    setting.Agrees (ofVariables lookup) standard := by
  have hnot : ∀ text, text? (lookup setting.source) = some text → ¬ setting.Accepts text := by
    intro text ht
    obtain ⟨⟨s, hs, rfl⟩, -⟩ := text?_eq_some_iff.1 ht
    exact h s hs
  cases setting with
  | dataPath =>
    have hnone : text? (lookup Setting.dataPath.source) = none :=
      Option.eq_none_iff_forall_ne_some.2 fun text ht => hnot text ht (text?_eq_some_iff.1 ht).2
    exact congrArg (Option.getD · defaultDataPath) hnone
  | apiKey =>
    exact Option.eq_none_iff_forall_ne_some.2 fun text ht => hnot text ht (text?_eq_some_iff.1 ht).2
  | mainnetUrl => exact url_standard hnot
  | testnetUrl => exact url_standard hnot
  | timeout => exact timeout_standard hnot
  | logFormat =>
    have hpretty : ∀ format ∈ (text? (lookup Setting.logFormat.source)).map LogFormat.parse, format = .pretty := by
      intro format hformat
      obtain ⟨text, ht, rfl⟩ := Option.map_eq_some_iff.1 hformat
      obtain ⟨⟨s, -, rfl⟩, -⟩ := text?_eq_some_iff.1 ht
      cases hparse : LogFormat.parse (trim s) with
      | pretty => rfl
      | json =>
        rw [logFormat_eq_json_iff, trim_trim] at hparse
        exact absurd hparse (hnot _ ht)
    show ((text? (lookup Setting.logFormat.source)).map LogFormat.parse).getD .pretty = .pretty
    cases hformat : (text? (lookup Setting.logFormat.source)).map LogFormat.parse with
    | none => rfl
    | some format => exact hpretty format hformat

end

theorem trimmed_of_text? {v : Option String} {text : String} (h : text? v = some text) : text ≠ "" ∧ Trimmed text := by
  obtain ⟨⟨s, -, rfl⟩, hne⟩ := text?_eq_some_iff.1 h
  exact ⟨hne, trimmed_trim s⟩

theorem usable_ofVariables (lookup : String → Option String) : Usable (ofVariables lookup) where
  dataPath := by
    show (text? (lookup "KMS_DATA_PATH")).getD defaultDataPath ≠ ""
      ∧ Trimmed ((text? (lookup "KMS_DATA_PATH")).getD defaultDataPath)
    cases h : text? (lookup "KMS_DATA_PATH") with
    | some text => exact trimmed_of_text? h
    | none =>
      have hself : trim defaultDataPath = defaultDataPath := by decide
      exact ⟨by decide, hself ▸ trimmed_trim defaultDataPath⟩
  apiKey := fun _ => trimmed_of_text?
  timeout := timeout_pos _

/-! ### Two sources of variables -/

section

variable {lookup lookup' : String → Option String}

theorem agrees_of_own {setting : Setting} (h : lookup setting.source = lookup' setting.source) :
    setting.Agrees (ofVariables lookup) (ofVariables lookup') := agrees_of_text? (congrArg text? h)

/-- Variables have no setting in common. -/
theorem agrees_of_others {name : String} (h : ∀ other, other ≠ name → lookup other = lookup' other) :
    ∃ changed : Setting, ∀ setting : Setting, setting ≠ changed →
      setting.Agrees (ofVariables lookup) (ofVariables lookup') := by
  by_cases hname : ∃ changed : Setting, changed.source = name
  · obtain ⟨changed, rfl⟩ := hname
    exact ⟨changed, fun setting hne => agrees_of_own (h _ fun heq => hne (Setting.source_injective heq))⟩
  · exact ⟨.dataPath, fun setting _ => agrees_of_own (h _ fun heq => hname ⟨setting, heq⟩)⟩

theorem ofVariables_unset {setting : Setting} {s : String} (hs : lookup setting.source = some s)
    (h : ¬ setting.Accepts (trim s)) :
    ofVariables lookup = ofVariables (Function.update lookup setting.source none) := by
  refine eq_of_agrees fun other => ?_
  by_cases hother : other = setting
  · subst hother
    refine (agrees_standard fun s' hs' => ?_).of_standard (agrees_standard fun s' hs' => ?_)
    · rwa [Option.some.inj (hs'.symm.trans hs)]
    · rw [Function.update_self] at hs'
      cases hs'
  · refine agrees_of_own (Function.update_of_ne (fun heq => ?_) _ _).symm
    exact hother (Setting.source_injective heq)

theorem ofVariables_respaced (h : ∀ name, Respaced (lookup name) (lookup' name)) :
    ofVariables lookup = ofVariables lookup' :=
  eq_of_agrees fun setting => agrees_of_text? (h setting.source).text?

end

/-- Every configuration can be used. Trimming takes the white space from both ends of a text, all of it and nothing
else. A setting follows the trimmed text of its own variable if that makes sense, and is else as it is without
variables. So another value of one variable changes one setting at most; a text that makes no sense counts as unset;
and white space at the ends of the texts has no part in anything. -/
theorem ofVariables_separate (lookup : String → Option String) :
    Usable (ofVariables lookup)
    ∧ (∀ s, Padded (trim s) s ∧ Trimmed (trim s))
    ∧ (∀ (setting : Setting) (s : String), lookup setting.source = some s → setting.Accepts (trim s) →
        setting.Follows (ofVariables lookup) (trim s))
    ∧ (∀ setting : Setting, (∀ s, lookup setting.source = some s → ¬ setting.Accepts (trim s)) →
        setting.Agrees (ofVariables lookup) standard)
    ∧ (∀ (lookup' : String → Option String) (setting : Setting), lookup setting.source = lookup' setting.source →
        setting.Agrees (ofVariables lookup) (ofVariables lookup'))
    ∧ (∀ (lookup' : String → Option String) (name : String), (∀ other, other ≠ name → lookup other = lookup' other) →
        ∃ changed : Setting, ∀ setting : Setting, setting ≠ changed →
          setting.Agrees (ofVariables lookup) (ofVariables lookup'))
    ∧ (∀ (setting : Setting) (s : String), lookup setting.source = some s → ¬ setting.Accepts (trim s) →
        ofVariables lookup = ofVariables (Function.update lookup setting.source none))
    ∧ ∀ lookup' : String → Option String, (∀ name, Respaced (lookup name) (lookup' name)) →
        ofVariables lookup = ofVariables lookup' :=
  ⟨usable_ofVariables lookup, fun s => ⟨padded_trim s, trimmed_trim s⟩, fun _ _ => follows_of_accepts,
    fun _ => agrees_standard, fun _ _ => agrees_of_own, fun _ _ => agrees_of_others, fun _ _ => ofVariables_unset,
    fun _ => ofVariables_respaced⟩

end Keyring.Config

import EventMixing.Run

/-!
# What is known of accepted arguments

Reading a level of a command line changes its settings in no other way than by
entering arguments. What every entry keeps therefore holds of the settings at the end,
in whatever order and form the arguments came (`Level.readArgs_keeps`,
`Level.settle_keeps`). That is how a depth of zero is known not to get through
(`mixingDepth_ne_zero`), and with configurations being as strict a run has pools of at
least one event (`depthOf_pos`).
-/

namespace EventMixing

theorem exists_of_map_eq_ok {ε α β : Type} {f : α → β} {x : Except ε α} {b : β}
    (h : x.map f = .ok b) : ∃ a, x = .ok a ∧ f a = b := by
  cases x with
  | error e => cases h
  | ok a => exact ⟨a, rfl, Except.ok.inj h⟩

theorem exists_of_bind_eq_ok {ε α β : Type} {x : Except ε α} {f : α → Except ε β} {b : β}
    (h : x >>= f = .ok b) : ∃ a, x = .ok a ∧ f a = .ok b := by
  cases x with
  | error e => cases h
  | ok a => exact ⟨a, rfl, h⟩

namespace CommandLine

/-! ## Settings of a level -/

namespace Level

variable {κ σ : Type} [DecidableEq κ] {level : Level κ σ} {P : σ → Prop}

/-- Entering any argument with any value keeps what is known of the settings. -/
def Keeps (level : Level κ σ) (P : σ → Prop) : Prop :=
  ∀ key value s s', P s → level.enter key value s = .ok s' → P s'

theorem store_keeps (hkeeps : level.Keeps P) {r r' : Reading κ σ} {key : κ} {value : String}
    (h : level.store r key value = .ok r') (hr : P r.settings) : P r'.settings := by
  unfold store at h
  split at h
  · cases h
  · obtain ⟨settings, hentered, rfl⟩ := exists_of_map_eq_ok h
    exact hkeeps _ _ _ _ hr hentered

theorem settle_keeps (hkeeps : level.Keeps P) {r r' : Reading κ σ}
    (h : level.settle r = .ok r') (hr : P r.settings) : P r'.settings := by
  unfold settle at h
  split at h
  · obtain rfl := Except.ok.inj h
    exact hr
  · cases h
  · exact store_keeps hkeeps h hr

theorem settleAndStore_keeps (hkeeps : level.Keeps P) {r r' : Reading κ σ} {key : κ}
    {value : String} (h : level.settleAndStore r key value = .ok r') (hr : P r.settings) :
    P r'.settings := by
  obtain ⟨r₁, hsettled, h⟩ := exists_of_bind_eq_ok h
  exact store_keeps hkeeps h (settle_keeps hkeeps hsettled hr)

theorem await_keeps (hkeeps : level.Keeps P) {r r' : Reading κ σ} {key : κ}
    (h : level.await r key = .ok r') (hr : P r.settings) : P r'.settings := by
  obtain ⟨r₁, hsettled, rfl⟩ := exists_of_map_eq_ok h
  exact (settle_keeps hkeeps hsettled hr :)

theorem readLong_keeps (hkeeps : level.Keeps P) {r r' : Reading κ σ} {text : List Char}
    (h : level.readLong r text = .ok r') (hr : P r.settings) : P r'.settings := by
  simp only [readLong] at h
  split at h
  · cases h
  · split at h
    · exact settleAndStore_keeps hkeeps h hr
    · exact await_keeps hkeeps h hr
    · cases h
    · exact settleAndStore_keeps hkeeps h hr

theorem readShort_keeps (hkeeps : level.Keeps P) {r r' : Reading κ σ} {text : List Char}
    (h : level.readShort r text = .ok r') (hr : P r.settings) : P r'.settings := by
  fun_induction readShort level r text with
  | case1 r =>
      obtain rfl := Except.ok.inj h
      exact hr
  | case2 => cases h
  | case3 => exact await_keeps hkeeps h hr
  | case4 => exact settleAndStore_keeps hkeeps h hr
  | case5 => exact settleAndStore_keeps hkeeps h hr
  | case6 => cases h
  | case7 r c rest key hkey hvalue r₁ hstored ih =>
      exact ih h (settleAndStore_keeps hkeeps hstored hr)

theorem readPosition_keeps (hkeeps : level.Keeps P) {r r' : Reading κ σ} {afterDashes : Bool}
    {arg : String} (h : level.readPosition r afterDashes arg = .ok r') (hr : P r.settings) :
    P r'.settings := by
  unfold readPosition at h
  split at h
  · cases h
  · obtain ⟨r₁, hsettled, rfl⟩ := exists_of_map_eq_ok h
    exact (settle_keeps hkeeps hsettled hr :)

theorem readPositions_keeps (hkeeps : level.Keeps P) {r r' : Reading κ σ} {args : List String}
    (h : level.readPositions r args = .ok r') (hr : P r.settings) : P r'.settings := by
  fun_induction readPositions level r args with
  | case1 r =>
      obtain rfl := Except.ok.inj h
      exact hr
  | case2 => cases h
  | case3 r arg rest r₁ hread ih => exact ih h (readPosition_keeps hkeeps hread hr)

theorem readArgs_keeps (hkeeps : level.Keeps P) {r : Reading κ σ} {read : Read κ σ}
    {args : List String} (h : level.readArgs r args = .ok read) (hr : P r.settings) :
    P read.1.settings := by
  fun_induction readArgs level r args
  case case1 | case2 =>
    obtain rfl := Except.ok.inj h
    exact hr
  case case3 =>
    obtain ⟨r₁, hread, rfl⟩ := exists_of_map_eq_ok h
    exact readPositions_keeps hkeeps hread hr
  case case4 | case6 | case9 => cases h
  case case5 hread ih => exact ih h (readLong_keeps hkeeps hread hr)
  case case7 hread ih => exact ih h (readShort_keeps hkeeps hread hr)
  case case8 ih => exact ih h hr
  case case10 hread _ _ _ ih => exact ih h (readPosition_keeps hkeeps hread hr)

end Level

/-! ## The depth of the pools -/

theorem lt_size_of_readDigits {n m : Nat} {text : List Char} (hn : n < UInt64.size)
    (h : Natural.readDigits n text = .ok m) : m < UInt64.size := by
  fun_induction Natural.readDigits n text
  case case1 =>
    obtain rfl := Except.ok.inj h
    exact hn
  case case2 hfits ih => exact ih hfits h
  case case3 | case4 => cases h

theorem lt_size_of_readNatural {text : List Char} {n : Nat} (h : readNatural text = .ok n) :
    n < UInt64.size := by
  unfold readNatural at h
  split at h
  · cases h
  · cases h
  · exact lt_size_of_readDigits (by decide) h
  · exact lt_size_of_readDigits (by decide) h

theorem ne_zero_of_depthValue {value : String} {depth : UInt64}
    (h : depthValue value = .ok depth) : depth ≠ 0 := by
  unfold depthValue at h
  split at h
  · cases h
  · cases h
  · rename_i n hzero hread
    obtain rfl := Except.ok.inj h
    intro hword
    have hn := UInt64.toNat_ofNat_of_lt' (lt_size_of_readNatural hread)
    rw [hword] at hn
    exact hzero hn.symm

theorem enter_keeps_mixingDepth :
    topLevel.Keeps fun c => c.mixingDepth ≠ some 0 := by
  intro key value c c' hc h
  have hentered : key.enter value c = .ok c' := h
  cases key with
  | mixingDepth =>
      obtain ⟨depth, hdepth, rfl⟩ := exists_of_map_eq_ok hentered
      exact fun hzero => ne_zero_of_depthValue hdepth (Option.some.inj hzero)
  | noExport =>
      obtain rfl := Except.ok.inj hentered
      exact hc
  | help => cases hentered
  | version => cases hentered
  | input | config | output | pairsOutput | inferSchemaLength =>
      obtain ⟨_, -, rfl⟩ := exists_of_map_eq_ok hentered
      exact hc

theorem mixingDepth_ne_zero {args : List String} {c : CommandLine} (h : parse args = .ok c) :
    c.mixingDepth ≠ some 0 := by
  obtain ⟨⟨r, subcommand⟩, hread, h⟩ := exists_of_bind_eq_ok h
  have hr : r.settings.mixingDepth ≠ some 0 :=
    Level.readArgs_keeps enter_keeps_mixingDepth hread (by simp)
  have hsettle : ∀ command, (do
      let r ← topLevel.settle r
      pure { r.settings with command }) = .ok c → c.mixingDepth ≠ some 0 := by
    intro command h
    obtain ⟨r', hsettled, h⟩ := exists_of_bind_eq_ok h
    obtain rfl := Except.ok.inj h
    exact (Level.settle_keeps enter_keeps_mixingDepth hsettled hr :)
  cases subcommand with
  | none =>
      obtain ⟨command, -, h⟩ := exists_of_bind_eq_ok h
      exact hsettle command h
  | some name =>
      obtain ⟨command, -, h⟩ := exists_of_bind_eq_ok h
      exact hsettle command h

/-! ## The depth of a run -/

theorem ne_zero_of_ofText {text : String} {config : MixingConfig}
    (h : MixingConfig.ofText text = .ok config) : config.mixingDepth ≠ some 0 := by
  unfold MixingConfig.ofText at h
  split at h
  · cases h
  · split at h
    · cases h
    · rename_i hdepth
      obtain rfl := Except.ok.inj h
      exact hdepth

theorem depthOf_pos {c : CommandLine} {config : MixingConfig} (hc : c.mixingDepth ≠ some 0)
    (hconfig : config.mixingDepth ≠ some 0) : 0 < c.depthOf config := by
  have hdepth : c.mixingDepth.or config.mixingDepth ≠ some 0 := by
    cases hdepth : c.mixingDepth with
    | none => rwa [Option.none_or]
    | some depth => rwa [Option.some_or, ← hdepth]
  unfold depthOf
  split
  · rename_i depth heq
    rw [heq] at hdepth
    exact Nat.pos_of_ne_zero fun hzero => hdepth (congrArg some (UInt64.toNat_inj.mp hzero))
  · decide

end CommandLine

end EventMixing

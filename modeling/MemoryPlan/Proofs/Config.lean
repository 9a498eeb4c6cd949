import MemoryPlan.Config.Document
import MemoryPlan.Proofs.Association
import MemoryPlan.Proofs.Document
import MemoryPlan.Proofs.Outcome
import MemoryPlan.Proofs.StreamCount
/-!
# Forms of a configuration

A configuration is kept as a document or set in the environment. Both forms give back every configuration, also one
that is not valid, as long as its numbers are words (`PlanConfig.Representable`): the document reads back as it is,
and with defaults for the entries that it lacks, in whatever order they stand; the environment is validated at last,
so that it yields a valid configuration or none.
-/

namespace MemoryPlan

namespace Document

/-- An integer within the bounds is read. -/
theorem integerIn?_integer {low high n : Int} (hlow : low ≤ n) (hhigh : n < high) :
    (integer n).integerIn? low high = some n := if_pos ⟨hlow, hhigh⟩

/-- Where each name occurs once, the order of the entries does not matter. -/
theorem lookup?_of_perm {entries others : List (String × Document)} (hperm : others.Perm entries)
    (hnodup : (entries.map Prod.fst).Nodup) (name : String) : lookup? others name = entries.lookup name := by
  have hreverse : others.reverse.Perm entries := (List.reverse_perm others).trans hperm
  have hothers : (others.reverse.map Prod.fst).Nodup := (hreverse.map Prod.fst).nodup_iff.mpr hnodup
  ext value
  unfold lookup?
  rw [Association.lookup_eq_some_iff_mem hothers, Association.lookup_eq_some_iff_mem hnodup, hreverse.mem_iff]

end Document

namespace PlanConfig

variable {config : PlanConfig} {env : PlanEnvironment} {s : String}

/-- The numbers of the configuration are an ordinal of 32 bits and a word. -/
structure Representable (config : PlanConfig) : Prop where
  /-- The device is not below the least ordinal. -/
  low : -(deviceBound : Int) ≤ config.deviceId
  /-- The device is not above the largest ordinal. -/
  high : config.deviceId < deviceBound
  /-- The alignment is a word. -/
  alignment : config.alignment < Word.limit

/-- The entries of the document of a configuration. -/
def entries (config : PlanConfig) : List (String × Document) :=
  [("device_id", .integer config.deviceId), ("throughput_streams", .text config.streams.text),
    ("alignment", .integer config.alignment)]

/-- The environment in which all settings of a configuration are set. -/
def environment (config : PlanConfig) : PlanEnvironment where
  deviceId := some (toString config.deviceId)
  streams := some config.streams.text
  alignment := some (toString config.alignment)

/-- A configuration with the default in place of every setting whose entry is not kept. -/
def restrict (config : PlanConfig) (kept : String → Bool) : PlanConfig where
  deviceId := if kept "device_id" = true then config.deviceId else 0
  streams := if kept "throughput_streams" = true then config.streams else .auto
  alignment := if kept "alignment" = true then config.alignment else 256

theorem toDocument_eq (config : PlanConfig) : config.toDocument = .fields config.entries := rfl

theorem entries_perm (config : PlanConfig) : config.entries.Perm (config.entries.filter fun _ => true) := by
  rw [List.filter_true]

/-! ### Documents -/

/-- The number of a device is read back from its document. -/
theorem deviceOfDocument?_integer (h : config.Representable) :
    deviceOfDocument? (.integer config.deviceId) = some config.deviceId :=
  Document.integerIn?_integer h.low h.high

theorem streamsOfDocument?_text (count : StreamCount) : streamsOfDocument? (.text count.text) = some count := by
  change (StreamCount.ofText? count.text).toOption = some count
  rw [StreamCount.ofText?_of_written (StreamCount.written_text count)]
  rfl

theorem alignmentOfDocument?_integer (h : config.Representable) :
    alignmentOfDocument? (.integer config.alignment) = some config.alignment := by
  have hword : (config.alignment : Int) < Word.limit := Int.ofNat_lt.mpr h.alignment
  rw [alignmentOfDocument?, Document.integerIn?_integer (Int.natCast_nonneg _) hword]
  rfl

/-- An entry that may be left out is read as its value where it stands, and as the usual one where
it does not. -/
theorem valueOr_ite {α : Type} {read : Document → Option α} {document : Document} {value absent : α} {b : Bool}
    (hread : read document = some value) :
    valueOr read absent (if b = true then some document else none) = some (if b = true then value else absent) := by
  cases b
  · rfl
  · exact hread

/-- A map of some of the entries, in any order, is read with defaults for the others. -/
theorem ofDocument?_of_perm (h : config.Representable) (kept : String → Bool) {others : List (String × Document)}
    (hperm : others.Perm (config.entries.filter fun entry => kept entry.1)) :
    ofDocument? (.fields others) = some (config.restrict kept) := by
  have hnames : (config.entries.map Prod.fst).Nodup := by
    change ["device_id", "throughput_streams", "alignment"].Nodup
    decide
  have hnodup : ((config.entries.filter fun entry => kept entry.1).map Prod.fst).Nodup :=
    hnames.sublist (List.filter_sublist.map Prod.fst)
  unfold ofDocument?
  dsimp only
  rw [Document.lookup?_of_perm hperm hnodup, Document.lookup?_of_perm hperm hnodup,
    Document.lookup?_of_perm hperm hnodup, Association.lookup_filter, Association.lookup_filter,
    Association.lookup_filter]
  change ofValues? (if kept "device_id" = true then some (.integer config.deviceId) else none)
    (if kept "throughput_streams" = true then some (.text config.streams.text) else none)
    (if kept "alignment" = true then some (.integer config.alignment) else none) = _
  unfold ofValues?
  rw [valueOr_ite (deviceOfDocument?_integer h), valueOr_ite (streamsOfDocument?_text config.streams),
    valueOr_ite (alignmentOfDocument?_integer h)]
  rfl

/-- The text of such a map is read as the map. -/
theorem read?_write_of_perm (kept : String → Bool) {others : List (String × Document)}
    (hperm : others.Perm (config.entries.filter fun entry => kept entry.1)) :
    Document.read? (Document.fields others).write = some (.fields others) := by
  apply Document.read?_write
  refine .fields fun entry hentry => ?_
  have hmem : entry ∈ config.entries := List.mem_of_mem_filter (hperm.mem_iff.mp hentry)
  unfold entries at hmem
  simp only [List.mem_cons, List.not_mem_nil, or_false] at hmem
  obtain rfl | rfl | rfl := hmem
  · exact .integer _
  · exact .text _
  · exact .integer _

/-- The whole map is read as the configuration, valid or not. -/
theorem ofDocument?_toDocument (h : config.Representable) : ofDocument? config.toDocument = some config := by
  rw [toDocument_eq, ofDocument?_of_perm h (fun _ => true) config.entries_perm]
  rfl

/-! ### Environments -/

/-- A text without blanks is trimmed to itself. -/
theorem trim_of_visible (hs : ∀ c ∈ s.toList, Text.isBlank c = false) : Text.trim s = s := by
  rw [Text.trim, Text.trimBlanks_of_framed (Text.framed_self _) hs, String.ofList_toList]

/-- The number of a device is read back from its variable. -/
theorem readDevice?_toString (h : config.Representable) :
    readDevice? (toString config.deviceId) = .ok config.deviceId := by
  rw [readDevice?, trim_of_visible (Text.isBlank_toString_int config.deviceId), Text.signed?_toString h.low h.high]

theorem readAlignment?_toString (h : config.Representable) :
    readAlignment? (toString config.alignment) = .ok config.alignment := by
  have hnumeral := Text.numeral_toString config.alignment
  rw [readAlignment?, trim_of_visible hnumeral.isBlank, Text.unsigned?_eq_some_iff.mpr ⟨hnumeral, h.alignment⟩]

/-- The written settings are read back, and then validated. -/
theorem ofEnvironment_environment (h : config.Representable) :
    ofEnvironment config.environment = config.validate.map fun _ => config := by
  unfold ofEnvironment environment settingOr
  dsimp only
  rw [readDevice?_toString h, StreamCount.ofText?_of_written (StreamCount.written_text _), readAlignment?_toString h]
  rfl

/-- Settings that were read from the environment are valid. -/
theorem validate_of_ofEnvironment (h : ofEnvironment env = .ok config) : config.validate = .ok () := by
  unfold ofEnvironment at h
  obtain ⟨deviceId, -, h⟩ := Except.bind_eq_ok.mp h
  obtain ⟨streams, -, h⟩ := Except.bind_eq_ok.mp h
  obtain ⟨alignment, -, h⟩ := Except.bind_eq_ok.mp h
  obtain ⟨_, hvalid, h⟩ := Except.bind_eq_ok.mp h
  cases h
  exact hvalid

/-- Settings are valid, or refused for a cause that is named. -/
theorem validate_cases (config : PlanConfig) :
    config.validate = .ok () ∨ ∃ cause, config.validate = .error (.invalidConfiguration cause) := by
  unfold validate
  split
  · exact Or.inr ⟨_, rfl⟩
  · split
    · exact Or.inl rfl
    · exact Or.inr ⟨_, rfl⟩

/-- A configuration is read back from its map and from the text of this, valid or not; from some of the entries, in
any order, with defaults for the others; and from the environment exactly if it is valid, as are all that come from
there. -/
theorem forms_agree (config : PlanConfig) (h : config.Representable) :
    Document.read? config.toDocument.write = some config.toDocument ∧ ofDocument? config.toDocument = some config ∧
    (∀ (kept : String → Bool) (others : List (String × Document)),
      others.Perm (config.entries.filter fun entry => kept entry.1) →
        Document.read? (Document.fields others).write = some (.fields others) ∧
        ofDocument? (.fields others) = some (config.restrict kept)) ∧
    (config.validate = .ok () → ofEnvironment config.environment = .ok config) ∧
    (config.validate ≠ .ok () → ∃ cause, ofEnvironment config.environment = .error (.invalidConfiguration cause)) ∧
    ∀ env other, ofEnvironment env = .ok other → other.validate = .ok () := by
  refine ⟨?text, ofDocument?_toDocument h, ?some, ?valid, ?refused, fun _ _ => validate_of_ofEnvironment⟩
  case text => exact read?_write_of_perm (fun _ => true) config.entries_perm
  case some =>
    intro kept others hperm
    exact ⟨read?_write_of_perm kept hperm, ofDocument?_of_perm h kept hperm⟩
  case valid =>
    intro hvalid
    rw [ofEnvironment_environment h, hvalid]
    rfl
  case refused =>
    intro hinvalid
    obtain hvalid | ⟨cause, hcause⟩ := validate_cases config
    · exact (hinvalid hvalid).elim
    · refine ⟨cause, ?_⟩
      rw [ofEnvironment_environment h, hcause]
      rfl

/-- The least device with the most streams and a refused alignment can be kept, but not set. -/
theorem forms_agree_leastDevice :
    let config : PlanConfig := ⟨-2147483648, .fixed 18446744073709551615 (by decide) (by decide), 48⟩
    (Document.read? config.toDocument.write = some config.toDocument ∧ ofDocument? config.toDocument = some config) ∧
    ofDocument? (.fields [("alignment", .integer 48), ("device_id", .integer (-2147483648))]) =
      some ⟨-2147483648, .auto, 48⟩ ∧
    (∃ cause, ofEnvironment config.environment = .error (.invalidConfiguration cause)) ∧
    ofEnvironment standard.environment = .ok standard ∧ standard.validate = .ok () := by
  intro config
  have hwords : config.Representable := ⟨by decide, by decide, by decide⟩
  have hstandard : standard.Representable := ⟨by decide, by decide, by decide⟩
  obtain ⟨htext, hmap, hsome, -, hrefused, -⟩ := forms_agree config hwords
  obtain ⟨-, -, -, hset, -, hchecked⟩ := forms_agree standard hstandard
  have hswapped := hsome (fun name => name != "throughput_streams")
    [("alignment", .integer 48), ("device_id", .integer (-2147483648))] (.swap ..)
  exact ⟨⟨htext, hmap⟩, hswapped.2, hrefused (by decide), hset (by decide), hchecked {} standard (by decide)⟩

end PlanConfig
end MemoryPlan

/-! The journal: entries with a level, and the level from which on entries are kept. -/

namespace DeskCalc

/-- How much an entry matters. -/
inductive Journal.Level
  | all
  | debug
  | info
  | warning
  | error
  | critical
deriving DecidableEq

/-- An entry of a journal. -/
structure Journal.Entry where
  level : Journal.Level
  message : String

/-- A journal: its name, the level from which on it keeps entries, its outputs, and their layout. -/
structure Journal where
  name : String
  level : Journal.Level
  outputs : Nat
  layout : String

namespace Journal

namespace Level

/-- The weight of a level; entries are kept when they weigh at least as much as the journal. -/
def weight : Level → Nat
  | all => 0
  | debug => 10
  | info => 20
  | warning => 30
  | error => 40
  | critical => 50

/-- The name of a level in an entry. -/
def name : Level → String
  | all => "NOTSET"
  | debug => "DEBUG"
  | info => "INFO"
  | warning => "WARNING"
  | error => "ERROR"
  | critical => "CRITICAL"

/-- The level of a name in capitals; two levels have a second name. -/
def ofName? : String → Option Level
  | "NOTSET" => some all
  | "DEBUG" => some debug
  | "INFO" => some info
  | "WARNING" | "WARN" => some warning
  | "ERROR" => some error
  | "CRITICAL" | "FATAL" => some critical
  | _ => none

/-- The capital of a letter where that is in ASCII, as for the dotless i and the long s. -/
def capital (c : Char) : Char :=
  if c == 'ı' then 'I' else if c == 'ſ' then 'S' else c.toUpper

/-- The level that a setting asks for; no setting and an unknown name ask for `info`. -/
def ofSetting (setting : Option String) : Level :=
  (setting.bind fun name => ofName? (String.ofList (name.toList.map capital))).getD info

end Level

/-- How entries are laid out. -/
def entryLayout : String := "%(asctime)s %(levelname)s [%(name)s] %(message)s"

/-- Open the journal of a name: one that is open stays as it is, whatever the setting asks for. -/
def openNamed (name : String) (setting : Option String) : Option Journal → Journal
  | some journal => journal
  | none => { name, level := .ofSetting setting, outputs := 1, layout := entryLayout }

/-- Open the journal of a name once for each setting, and note what it is after each time. -/
def openRepeatedly (name : String) (journal : Option Journal) :
    List (Option String) → List Journal
  | [] => []
  | setting :: rest =>
    let opened := openNamed name setting journal
    opened :: openRepeatedly name (some opened) rest

/-- Whether a journal keeps an entry. -/
def keeps (journal : Journal) (entry : Entry) : Bool :=
  journal.level.weight ≤ entry.level.weight

end Journal

end DeskCalc

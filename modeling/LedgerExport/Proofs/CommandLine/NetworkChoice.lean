import LedgerExport.CommandLine.Session
import LedgerExport.Proofs.CommandLine.Switches
import LedgerExport.Proofs.Text.WellFormed

/-!
# Which network a session works in

A session puts its settings together from defaults, a settings file, variables of
the environment, and a network that the command line names. Where there is a
settings file, the named network has the last word, whatever the file and the
variables say. Where there is none, the named network only stands in for the
default, and the variable that names a network is heard after it. So the named
network is the network of the session exactly if there is a settings file, or the
variable is not set, or it says the same.

## Implementation notes

What a session finds out is written as two tables, one of files and one of
variables, and a host shows them in any monad. The settings are then a function of
the tables and of the invocation.
-/

namespace LedgerExport

namespace CommandLine

variable {m : Type → Type} {files : String → Option Octets} {values : String → Option String}
  {words : List String} {invocation : Invocation} {file : Option Settings}

/-! ## Named networks -/

/-- A network that a command line can name. -/
inductive NamedNetwork
  | testnet
  | mainnet
deriving DecidableEq

namespace NamedNetwork

def passphrase : NamedNetwork → String
  | testnet => NetworkId.testnetPassphrase
  | mainnet => NetworkId.mainnetPassphrase

/-- The network is named among the words, and the other one is not. -/
def NamedBy (words : List String) : NamedNetwork → Prop
  | testnet => "--testnet" ∈ words ∧ "--mainnet" ∉ words
  | mainnet => "--mainnet" ∈ words ∧ "--testnet" ∉ words

variable {network : NamedNetwork}

/-- An invocation has the flag of the network that is named alone, and not the other one. -/
theorem flags_of_namedBy (hparse : Invocation.parse words = .ok invocation)
    (h : network.NamedBy words) :
    invocation.testnet = decide (network = testnet) ∧
      invocation.mainnet = decide (network = mainnet) := by
  obtain ⟨htestnet, hmainnet⟩ := Invocation.networks_of_parse hparse
  cases network with
  | testnet => exact ⟨htestnet.mpr h.1, Bool.eq_false_iff.mpr (mt hmainnet.mp h.2)⟩
  | mainnet => exact ⟨Bool.eq_false_iff.mpr (mt htestnet.mp h.2), hmainnet.mpr h.1⟩

end NamedNetwork

/-! ## What a session finds -/

/-- Files have the contents, and variables the values, of two tables. -/
structure Host.Shows [Monad m] (host : Host m) (files : String → Option Octets)
    (values : String → Option String) : Prop where
  contents : ∀ path, host.contents path = pure (files path)
  environment : ∀ name, host.environment name = pure (values name)

/-- Settings that can be used. -/
def checked (settings : Settings) : Except Trouble Settings :=
  match settings.invalid? with
  | some invalid => .error (.settings invalid)
  | none => .ok settings

theorem checked_eq_ok_iff {settings settings' : Settings} :
    checked settings = .ok settings' ↔ settings = settings' ∧ settings.invalid? = none := by
  unfold checked
  split
  · next hinvalid => simp [hinvalid]
  · next hvalid => simp [hvalid]

namespace Invocation

/-- An invocation names no settings file, or one that describes settings. -/
inductive Finds (invocation : Invocation) (files : String → Option Octets) : Option Settings → Prop
  | nothing (h : invocation.settingsFile = none) : invocation.Finds files none
  | file {path : String} {bytes : Octets} {text : String} {settings : Settings}
      (hpath : invocation.settingsFile = some path) (hbytes : files path = some bytes)
      (htext : Utf8.string? bytes = some text) (hsettings : Settings.parse text = some settings) :
      invocation.Finds files (some settings)

/-- What is read from the settings file, if one is named. -/
def readFile (invocation : Invocation) (files : String → Option Octets) :
    Except Trouble (Option Settings) :=
  match invocation.settingsFile with
  | none => .ok none
  | some path =>
    match ((files path).bind Utf8.string?).bind Settings.parse with
    | some settings => .ok (some settings)
    | none => .error (.settingsFile path)

/-- The settings that two tables lead to. -/
def load (invocation : Invocation) (files : String → Option Octets)
    (values : String → Option String) : Except Trouble Settings :=
  if invocation.testnet && invocation.mainnet then .error .bothNetworks
  else do checked (invocation.settings (← invocation.readFile files) values)

theorem readFile_eq_ok_iff :
    invocation.readFile files = .ok file ↔ invocation.Finds files file := by
  unfold readFile
  constructor
  · intro h
    split at h
    · next hpath =>
        cases h
        exact .nothing hpath
    · next path hpath =>
        split at h
        · next settings hread =>
            cases h
            obtain ⟨text, hbytes, hsettings⟩ := Option.bind_eq_some_iff.mp hread
            obtain ⟨bytes, hbytes, htext⟩ := Option.bind_eq_some_iff.mp hbytes
            exact .file hpath hbytes htext hsettings
        · cases h
  · rintro (hpath | ⟨hpath, hbytes, htext, hsettings⟩)
    · rw [hpath]
    · simp only [hpath, hbytes, htext, hsettings, Option.bind_some]

/-- The variables that a session asks for are all that its settings depend on. -/
theorem settings_asked (file : Option Settings) :
    invocation.settings file (fun name =>
      if name = Settings.passphraseVariable then values Settings.passphraseVariable
      else if name = Settings.logLevelVariable then values Settings.logLevelVariable
      else if name = Settings.logFormatVariable then values Settings.logFormatVariable
      else none) = invocation.settings file values := by
  cases file with
  | none => rfl
  | some settings => rfl

end Invocation

/-- What a session makes of its host depends on the two tables alone. -/
theorem Session.settings_eq_load [Monad m] [LawfulMonad m] {host : Host m}
    (hshows : host.Shows files values) :
    Session.settings host invocation = pure (invocation.load files values) := by
  unfold Session.settings Invocation.load Invocation.readFile
  split
  · rfl
  · simp only [hshows.contents, hshows.environment, pure_bind, Invocation.settings_asked]
    cases invocation.settingsFile with
    | none => rfl
    | some path =>
        dsimp only
        cases ((files path).bind Utf8.string?).bind Settings.parse with
        | none => rfl
        | some settings => rfl

/-! ## Settings of a named network -/

/-- Settings that are put together from a file, if there is one, from variables, and from a network
that is named. The named network comes after the variables where there is a file, and in front of
them where there is none. -/
structure Combines (file : Option Settings) (values : String → Option String)
    (network : NamedNetwork) (settings : Settings) : Prop where
  passphrase_of_file : file ≠ none → settings.network.passphrase = network.passphrase
  passphrase_of_none : file = none → settings.network.passphrase =
    (values Settings.passphraseVariable).getD network.passphrase
  level : settings.log.level =
    (values Settings.logLevelVariable).getD (file.getD .testnet).log.level
  format : settings.log.format =
    (values Settings.logFormatVariable).getD (file.getD .testnet).log.format
  events : settings.events = (file.getD .testnet).events
  output : settings.output = (file.getD .testnet).output

section Named

variable {network : NamedNetwork} {settings : Settings}

theorem Combines.eq {settings' : Settings} (h : Combines file values network settings)
    (h' : Combines file values network settings') : settings = settings' := by
  obtain ⟨⟨passphrase⟩, events, output, level, format⟩ := settings
  obtain ⟨⟨passphrase'⟩, events', output', level', format'⟩ := settings'
  have hpassphrase : passphrase = passphrase' := by
    cases file with
    | none => exact (h.passphrase_of_none rfl).trans (h'.passphrase_of_none rfl).symm
    | some file => exact (h.passphrase_of_file nofun).trans (h'.passphrase_of_file nofun).symm
  have hlevel : level = level' := h.level.trans h'.level.symm
  have hformat : format = format' := h.format.trans h'.format.symm
  have hevents : events = events' := h.events.trans h'.events.symm
  have houtput : output = output' := h.output.trans h'.output.symm
  rw [hpassphrase, hlevel, hformat, hevents, houtput]

theorem combines_settings (hparse : Invocation.parse words = .ok invocation)
    (hnamed : network.NamedBy words) :
    Combines file values network (invocation.settings file values) := by
  obtain ⟨htestnet, hmainnet⟩ := NamedNetwork.flags_of_namedBy hparse hnamed
  unfold Invocation.settings
  rw [htestnet, hmainnet]
  cases file with
  | none => cases network <;> exact ⟨fun h => absurd rfl h, fun _ => rfl, rfl, rfl, rfl, rfl⟩
  | some file => cases network <;> exact ⟨fun _ => rfl, nofun, rfl, rfl, rfl, rfl⟩

/-- A network that is named alone leads to settings exactly if the file can be read, and what is
put together can be used. -/
theorem load_eq_ok_iff (hparse : Invocation.parse words = .ok invocation)
    (hnamed : network.NamedBy words) :
    invocation.load files values = .ok settings ↔
      ∃ file, invocation.Finds files file ∧ Combines file values network settings ∧
        settings.invalid? = none := by
  obtain ⟨htestnet, hmainnet⟩ := NamedNetwork.flags_of_namedBy hparse hnamed
  have hsingle : ¬ (invocation.testnet && invocation.mainnet) = true := by
    rw [htestnet, hmainnet]
    cases network <;> decide
  rw [Invocation.load, if_neg hsingle, bind_eq_ok_iff]
  refine exists_congr fun file => and_congr Invocation.readFile_eq_ok_iff ?_
  have hcombines : Combines file values network (invocation.settings file values) :=
    combines_settings hparse hnamed
  rw [checked_eq_ok_iff]
  constructor
  · rintro ⟨rfl, hvalid⟩
    exact ⟨hcombines, hvalid⟩
  · rintro ⟨hcombines', hvalid⟩
    rw [hcombines.eq hcombines']
    exact ⟨rfl, hvalid⟩

/-- The passphrase is that of the named network where there is a file, or the variable is not set
or says the same. -/
theorem passphrase_eq_iff (hfile : invocation.Finds files file)
    (hcombines : Combines file values network settings) :
    settings.network.passphrase = network.passphrase ↔
      invocation.settingsFile ≠ none ∨ ∀ passphrase,
        values Settings.passphraseVariable = some passphrase →
          passphrase = network.passphrase := by
  cases hfile with
  | file hpath _ _ _ =>
      refine iff_of_true (hcombines.passphrase_of_file nofun) (.inl ?_)
      rw [hpath]
      nofun
  | nothing hnone =>
      rw [hcombines.passphrase_of_none rfl, or_iff_right (not_not_intro hnone)]
      cases values Settings.passphraseVariable with
      | none => exact iff_of_true rfl nofun
      | some passphrase => simp

/-- A network that is named alone decides the network of a session where there is a settings file;
where there is none, the variable of the environment decides, if it is set. -/
theorem networks_chosen_up_to_variable [Monad m] [LawfulMonad m] {host : Host m}
    (hshows : host.Shows files values) (hparse : Invocation.parse words = .ok invocation)
    (hnamed : network.NamedBy words) :
    ∃ result, Session.settings host invocation = pure result ∧ ∀ settings,
      (result = .ok settings ↔
        ∃ file, invocation.Finds files file ∧ Combines file values network settings ∧
          settings.invalid? = none) ∧
      (result = .ok settings →
        (settings.network.passphrase = network.passphrase ↔
          invocation.settingsFile ≠ none ∨ ∀ passphrase,
            values Settings.passphraseVariable = some passphrase →
              passphrase = network.passphrase)) := by
  refine ⟨_, Session.settings_eq_load hshows, fun settings => ?_⟩
  have hload : invocation.load files values = .ok settings ↔ _ := load_eq_ok_iff hparse hnamed
  refine ⟨hload, fun h => ?_⟩
  obtain ⟨file, hfile, hcombines, -⟩ := hload.mp h
  exact passphrase_eq_iff hfile hcombines

end Named

/-- A machine that shows two tables, and has nothing to read or to write. -/
def Host.showing (files values : List (String × String)) : Host Id where
  environment name := values.lookup name
  contents path := (files.lookup path).map Utf8.bytes
  standardInput := .ok []
  openNamed path := .error path
  createNamed path := .error path
  writeNamed path _ := .error path
  standardOutput _ := .ok ()

theorem Host.shows_showing (files values : List (String × String)) :
    (Host.showing files values).Shows (fun path => (files.lookup path).map Utf8.bytes)
      (fun name => values.lookup name) :=
  ⟨fun _ => rfl, fun _ => rfl⟩

/-- The file names one network, the variable another one, and the command line the main one, which
is that of the session. -/
theorem mainnet_named_beside_file :
    let text := "[network]\npassphrase = \"Another Network\"\n"
    let files := [("settings.toml", text)]
    let values := [(Settings.passphraseVariable, NetworkId.testnetPassphrase)]
    let words := ["--config", "settings.toml", "convert", "--mainnet", "--input", "-"]
    ∃ invocation settings, Invocation.parse words = .ok invocation ∧
      NamedNetwork.mainnet.NamedBy words ∧
      Session.settings (Host.showing files values) invocation = pure (.ok settings) ∧
      settings.network.passphrase = NetworkId.mainnetPassphrase := by
  intro text files values words
  have hwords : (Invocation.parse words).toOption =
      some ⟨some "settings.toml", false, true, .run .ledgers .frames "-" none⟩ := by
    decide +kernel
  have hparse := toOption_eq_some_iff.mp hwords
  have hnamed : NamedNetwork.mainnet.NamedBy words := ⟨by decide, by decide⟩
  have hread : Settings.parse text =
      some { Settings.testnet with network := ⟨"Another Network"⟩ } := by
    decide +kernel
  obtain ⟨result, hresult, hsettings⟩ :=
    networks_chosen_up_to_variable (Host.shows_showing files values) hparse hnamed
  have hloaded : result = .ok Settings.mainnet := by
    have htext : Utf8.string? (Utf8.bytes text) = some text := Utf8.string?_eq_some_iff.mpr rfl
    refine (hsettings Settings.mainnet).1.mpr ⟨_, .file rfl rfl htext hread, ?_, ?_⟩
    · exact ⟨fun _ => rfl, nofun, rfl, rfl, rfl, rfl⟩
    · decide +kernel
  rw [hloaded] at hresult
  exact ⟨_, _, hparse, hnamed, hresult, ((hsettings _).2 hloaded).mpr (.inl nofun)⟩

/-- Without a file the command line names the main network, and the session works in the one of the
variable. -/
theorem mainnet_named_without_file :
    let host := Host.showing [] [(Settings.passphraseVariable, NetworkId.testnetPassphrase)]
    let words := ["--mainnet", "convert", "--input", "-"]
    ∃ invocation settings, Invocation.parse words = .ok invocation ∧
      NamedNetwork.mainnet.NamedBy words ∧
      Session.settings host invocation = pure (.ok settings) ∧
      settings.network.passphrase ≠ NetworkId.mainnetPassphrase := by
  intro host words
  have hwords : (Invocation.parse words).toOption =
      some ⟨none, false, true, .run .ledgers .frames "-" none⟩ := by
    decide +kernel
  have hparse := toOption_eq_some_iff.mp hwords
  refine ⟨_, Settings.testnet, hparse, ⟨by decide, by decide⟩, ?_, by decide⟩
  rw [Session.settings_eq_load (Host.shows_showing _ _)]
  refine congrArg pure (toOption_eq_some_iff.mp ?_)
  decide +kernel

end CommandLine

end LedgerExport

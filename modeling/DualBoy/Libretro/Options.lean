import DualBoy.Frontend.Compositor
import DualBoy.Nds.Barrier

/-!
# Core options

The options of the core and how they are read from the frontend's variables (`options.c`). A reader
leaves its option alone when the variable is missing or has a value it does not know:
`readOption_missing`, `readOption_unknown`.
-/

namespace DualBoy.Libretro

open DualBoy.Frontend DualBoy.Nds

/-- `struct dualboy_options`. -/
structure Options where
  mode : DisplayMode
  layout : Layout
  linkEnabled : Bool
  controllerPorts : Fin 2 → Nat
  swapScreens : Bool
  audioPlayer1 : Bool
  ndsRenderer : VideoRenderer

/-- What `RETRO_ENVIRONMENT_GET_VARIABLE` answers. A missing environment answers nothing. -/
abbrev Environment := String → Option String

/-- `dualboy_options_set_defaults`. -/
def Options.defaults : Options where
  mode := .dual
  layout := .sideBySide
  linkEnabled := true
  controllerPorts := fun machine => machine
  swapScreens := false
  audioPlayer1 := true
  ndsRenderer := .software

/-- `DUALBOY_OPTION_LINK`. -/
def optionLink : String := "dualboy_link"

/-- `DUALBOY_OPTION_NDS_RENDERER`. -/
def optionNdsRenderer : String := "dualboy_nds_renderer"

/-- What a variable stands for, if it is there and one of these values. -/
def option {α : Type} (values : List (String × α)) (value : Option String) : Option α :=
  value.bind fun v => values.lookup v

/-- The body of the readers. -/
def readOption {α : Type} (values : List (String × α)) (value : Option String) (previous : α) : α :=
  (option values value).getD previous

/-- `read_mode`. -/
def readMode (environment : Environment) (options : Options) : Options :=
  { options with
    mode := readOption [("dual", .dual), ("player1", .player1), ("player2", .player2)]
      (environment "dualboy_mode") options.mode }

/-- `read_layout`. -/
def readLayout (environment : Environment) (options : Options) : Options :=
  { options with
    layout := readOption [("side_by_side", .sideBySide), ("top_bottom", .topBottom)]
      (environment "dualboy_layout") options.layout }

/-- What the link variable stands for. -/
def linkOption (environment : Environment) : Option Bool :=
  option [("enabled", true), ("disabled", false)] (environment optionLink)

/-- `read_link`. -/
def readLink (environment : Environment) (options : Options) : Options :=
  { options with linkEnabled := (linkOption environment).getD options.linkEnabled }

/-- What the renderer variable stands for. -/
def rendererOption (environment : Environment) : Option VideoRenderer :=
  option [("software", .software), ("opengl", .opengl)] (environment optionNdsRenderer)

/-- `read_nds_renderer`. -/
def readNdsRenderer (environment : Environment) (options : Options) : Options :=
  { options with ndsRenderer := (rendererOption environment).getD options.ndsRenderer }

/-- `read_swap_screens`. -/
def readSwapScreens (environment : Environment) (options : Options) : Options :=
  { options with
    swapScreens := readOption [("enabled", true), ("disabled", false)]
      (environment "dualboy_swap_players") options.swapScreens }

/-- `read_controller_port`. -/
def readControllerPort (environment : Environment) (key : String) (machine : Fin 2)
    (options : Options) : Options :=
  { options with
    controllerPorts := fun m =>
      if m = machine then
        readOption [("port1", 0), ("port2", 1), ("port3", 2), ("port4", 3), ("port5", 4)]
          (environment key) (options.controllerPorts m)
      else options.controllerPorts m }

/-- `read_audio`. -/
def readAudio (environment : Environment) (options : Options) : Options :=
  { options with
    audioPlayer1 := readOption [("player1", true), ("disabled", false)]
      (environment "dualboy_audio_source") options.audioPlayer1 }

/-- `dualboy_options_read`, without the answer whether anything changed, which is never used. -/
def optionsRead (environment : Environment) (options : Options) : Options :=
  let options := readMode environment options
  let options := readLayout environment options
  let options := readNdsRenderer environment options
  let options := readLink environment options
  let options := readControllerPort environment "dualboy_player1_controller" 0 options
  let options := readControllerPort environment "dualboy_player2_controller" 1 options
  let options := readSwapScreens environment options
  readAudio environment options

/-! ## What is read -/

theorem readOption_missing {α : Type} (values : List (String × α)) (previous : α) :
    readOption values none previous = previous := rfl

theorem readOption_unknown {α : Type} {values : List (String × α)} {value : String}
    (h : value ∉ values.map Prod.fst) (previous : α) :
    readOption values (some value) previous = previous := by
  have hlookup : values.lookup value = none := by
    rw [List.lookup_eq_none_iff]
    intro pair hpair
    rw [bne_iff_ne]
    rintro rfl
    exact h (List.mem_map_of_mem hpair)
  unfold readOption option
  rw [Option.bind_some, hlookup]
  rfl

@[simp]
theorem optionsRead_linkEnabled (environment : Environment) (options : Options) :
    (optionsRead environment options).linkEnabled =
      (linkOption environment).getD options.linkEnabled := rfl

@[simp]
theorem optionsRead_ndsRenderer (environment : Environment) (options : Options) :
    (optionsRead environment options).ndsRenderer =
      (rendererOption environment).getD options.ndsRenderer := rfl

/-- The link variable stands for an enabled link when its value is the one word. -/
theorem linkOption_eq_true {environment : Environment} :
    linkOption environment = some true ↔ environment optionLink = some "enabled" := by
  unfold linkOption option
  cases hvalue : environment optionLink with
  | none => simp
  | some value =>
    by_cases henabled : value = "enabled"
    · simp [henabled]
    · by_cases hdisabled : value = "disabled"
      · simp [hdisabled, List.lookup_cons]
      · simp [List.lookup_cons, henabled, beq_eq_false_iff_ne.mpr henabled,
          beq_eq_false_iff_ne.mpr hdisabled]

/-- The renderer variable stands for OpenGL when its value is the one word. -/
theorem rendererOption_eq_opengl {environment : Environment} :
    rendererOption environment = some .opengl ↔ environment optionNdsRenderer = some "opengl" := by
  unfold rendererOption option
  cases hvalue : environment optionNdsRenderer with
  | none => simp
  | some value =>
    by_cases hsoftware : value = "software"
    · simp [hsoftware, List.lookup_cons]
    · by_cases hopengl : value = "opengl"
      · simp [hopengl, List.lookup_cons]
      · simp [List.lookup_cons, hopengl, beq_eq_false_iff_ne.mpr hsoftware,
          beq_eq_false_iff_ne.mpr hopengl]

end DualBoy.Libretro

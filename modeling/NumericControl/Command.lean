/-!
# Commands

The commands that tokens are produced for, each with its written form.

## Main definitions

* `Command` : the commands.
* `Command.text` : the written form.
* `Command.ofText?` : the command with a given written form.
-/

namespace NumericControl

/-- The command a token was produced for. -/
inductive Command where
  | g0
  | g1
  | g2
  | g3
  | g4
  | g7
  | g8
  | g10
  | g17
  | g18
  | g19
  | g20
  | g21
  | g28
  | g28_1
  | g30
  | g30_1
  | g33
  | g38_2
  | g38_3
  | g38_4
  | g38_5
  | g40
  | g43
  | g43_1
  | g43_2
  | g49
  | g50
  | g51
  | g53
  | g54
  | g55
  | g56
  | g57
  | g58
  | g59
  | g59_1
  | g59_2
  | g59_3
  | g61
  | g61_1
  | g64
  | g73
  | g76
  | g80
  | g81
  | g82
  | g83
  | g85
  | g86
  | g89
  | g90
  | g90_1
  | g91
  | g91_1
  | g92
  | g92_1
  | g92_2
  | g92_3
  | g93
  | g94
  | g95
  | g96
  | g97
  | g98
  | g99
  | m0
  | m1
  | m2
  | m6
  | m30
  | m48
  | m49
  | m50
  | m51
  | m52
  | m53
  | m56
  | m61
  | feedrate
  | spindleRpm
  | spindleState
  | coolantState
  | toolSelect
  | comment
  | userCode
deriving DecidableEq, Repr

namespace Command

/-- The written form of a command. -/
def text : Command → String
  | g0 => "G0"
  | g1 => "G1"
  | g2 => "G2"
  | g3 => "G3"
  | g4 => "G4"
  | g7 => "G7"
  | g8 => "G8"
  | g10 => "G10"
  | g17 => "G17"
  | g18 => "G18"
  | g19 => "G19"
  | g20 => "G20"
  | g21 => "G21"
  | g28 => "G28"
  | g28_1 => "G28.1"
  | g30 => "G30"
  | g30_1 => "G30.1"
  | g33 => "G33"
  | g38_2 => "G38.2"
  | g38_3 => "G38.3"
  | g38_4 => "G38.4"
  | g38_5 => "G38.5"
  | g40 => "G40"
  | g43 => "G43"
  | g43_1 => "G43.1"
  | g43_2 => "G43.2"
  | g49 => "G49"
  | g50 => "G50"
  | g51 => "G51"
  | g53 => "G53"
  | g54 => "G54"
  | g55 => "G55"
  | g56 => "G56"
  | g57 => "G57"
  | g58 => "G58"
  | g59 => "G59"
  | g59_1 => "G59.1"
  | g59_2 => "G59.2"
  | g59_3 => "G59.3"
  | g61 => "G61"
  | g61_1 => "G61.1"
  | g64 => "G64"
  | g73 => "G73"
  | g76 => "G76"
  | g80 => "G80"
  | g81 => "G81"
  | g82 => "G82"
  | g83 => "G83"
  | g85 => "G85"
  | g86 => "G86"
  | g89 => "G89"
  | g90 => "G90"
  | g90_1 => "G90.1"
  | g91 => "G91"
  | g91_1 => "G91.1"
  | g92 => "G92"
  | g92_1 => "G92.1"
  | g92_2 => "G92.2"
  | g92_3 => "G92.3"
  | g93 => "G93"
  | g94 => "G94"
  | g95 => "G95"
  | g96 => "G96"
  | g97 => "G97"
  | g98 => "G98"
  | g99 => "G99"
  | m0 => "M0"
  | m1 => "M1"
  | m2 => "M2"
  | m6 => "M6"
  | m30 => "M30"
  | m48 => "M48"
  | m49 => "M49"
  | m50 => "M50"
  | m51 => "M51"
  | m52 => "M52"
  | m53 => "M53"
  | m56 => "M56"
  | m61 => "M61"
  | feedrate => "Feedrate"
  | spindleRpm => "SpindleRPM"
  | spindleState => "SpindleState"
  | coolantState => "CoolantState"
  | toolSelect => "ToolSelect"
  | comment => "Comment"
  | userCode => "UserMCommand"

/-- All commands. -/
def all : List Command :=
  [
    g0, g1, g2, g3, g4, g7, g8, g10, g17, g18, g19, g20, g21, g28, g28_1, g30, g30_1, g33, g38_2,
    g38_3, g38_4, g38_5, g40, g43, g43_1, g43_2, g49, g50, g51, g53, g54, g55, g56, g57, g58,
    g59, g59_1, g59_2, g59_3, g61, g61_1, g64, g73, g76, g80, g81, g82, g83, g85, g86, g89, g90,
    g90_1, g91, g91_1, g92, g92_1, g92_2, g92_3, g93, g94, g95, g96, g97, g98, g99, m0, m1, m2,
    m6, m30, m48, m49, m50, m51, m52, m53, m56, m61, feedrate, spindleRpm, spindleState,
    coolantState, toolSelect, comment, userCode
  ]

/-- The command with a given written form. -/
def ofText? (s : String) : Option Command :=
  all.find? (·.text == s)

theorem mem_all (c : Command) : c ∈ all := by
  cases c <;> decide

end Command

end NumericControl

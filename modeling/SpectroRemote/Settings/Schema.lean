import SpectroRemote.Settings
import SpectroRemote.Settings.Codec

/-!
# The form of settings

The sections of the settings and their keys, in the order in which they are written.
-/

namespace SpectroRemote

def LogFormat.word : LogFormat → String
  | pretty => "pretty"
  | compact => "compact"
  | json => "json"

def LogFormat.all : List LogFormat := [pretty, compact, json]

def TransportMode.word : TransportMode → String
  | udp => "udp"
  | tcp => "tcp"

def TransportMode.all : List TransportMode := [udp, tcp]

namespace Codec

def port : Codec UInt16 := (natural UInt16.size "u16").map UInt16.ofNat UInt16.toNat

def count : Codec UInt32 := (natural UInt32.size "u32").map UInt32.ofNat UInt32.toNat

def duration : Codec UInt64 := (natural UInt64.size "u64").map UInt64.ofNat UInt64.toNat

def size : Codec UInt64 := (natural UInt64.size "usize").map UInt64.ofNat UInt64.toNat

def logFormat : Codec LogFormat := words "LogFormat" LogFormat.all LogFormat.word

def transportMode : Codec TransportMode :=
  words "TransportMode" TransportMode.all TransportMode.word

end Codec

def ApplicationSettings.codec : Codec ApplicationSettings :=
  .record "ApplicationConfig" {} [
    .of "name" .text (·.name) fun v s => { s with name := v },
    .of "log_level" .text (·.logLevel) fun v s => { s with logLevel := v },
    .of "log_format" .logFormat (·.logFormat) fun v s => { s with logFormat := v }]

def TransportSettings.codec : Codec TransportSettings :=
  .record "TransportConfig" {} [
    .of "mode" .transportMode (·.mode) fun v s => { s with mode := v },
    .of "bind_address" .text (·.bindAddress) fun v s => { s with bindAddress := v },
    .of "port" .port (·.port) fun v s => { s with port := v },
    .of "buffer_size" .size (·.bufferSize) fun v s => { s with bufferSize := v }]

def MagnetSettings.codec : Codec MagnetSettings :=
  .record "MagnetConfig" {} [
    .of "move_threshold" .float (·.moveThreshold) fun v s => { s with moveThreshold := v },
    .of "steps" .count (·.steps) fun v s => { s with steps := v },
    .of "step_time_ms" .duration (·.stepTime) fun v s => { s with stepTime := v }]

def BeamBlankSettings.codec : Codec BeamBlankSettings :=
  .record "BeamBlankConfig" {} [
    .of "enabled" .flag (·.enabled) fun v s => { s with enabled := v },
    .of "blank_value" .float (·.blankValue) fun v s => { s with blankValue := v }]

def ScanSettings.codec : Codec ScanSettings :=
  .record "ScanConfig" {} [
    .of "tag_data" .flag (·.tagData) fun v s => { s with tagData := v },
    .of "ion_counter_tag" .text (·.ionCounterTag) fun v s => { s with ionCounterTag := v },
    .of "channel_capacity" .size (·.channelCapacity) fun v s => { s with channelCapacity := v },
    .of "allow_integration_time_change" .flag (·.allowIntegrationTimeChange)
      fun v s => { s with allowIntegrationTimeChange := v },
    .of "detectors" (.table .text) (·.detectors) fun v s => { s with detectors := v }]

def CupSettings.codec : Codec CupSettings :=
  .record "CupsConfig" {} [
    .of "cup_configuration" .text (·.cupConfiguration) fun v s => { s with cupConfiguration := v },
    .of "sub_cup_parameters" (.list .text) (·.subCupParameters)
      fun v s => { s with subCupParameters := v }]

def HardwareSettings.codec : Codec HardwareSettings :=
  .record "HardwareNames" {} [
    .of "magnet_dac" .text (·.magnetDac) fun v s => { s with magnetDac := v },
    .of "y_symmetry" .text (·.ySymmetry) fun v s => { s with ySymmetry := v },
    .of "ion_pump_valve" .text (·.ionPumpValve) fun v s => { s with ionPumpValve := v }]

def Settings.codec : Codec Settings :=
  .record "ServerConfig" {} [
    .of "application" ApplicationSettings.codec (·.application)
      fun v s => { s with application := v },
    .of "transport" TransportSettings.codec (·.transport) fun v s => { s with transport := v },
    .of "magnet" MagnetSettings.codec (·.magnet) fun v s => { s with magnet := v },
    .of "beam_blank" BeamBlankSettings.codec (·.beamBlank) fun v s => { s with beamBlank := v },
    .of "scan" ScanSettings.codec (·.scan) fun v s => { s with scan := v },
    .of "cups" CupSettings.codec (·.cups) fun v s => { s with cups := v },
    .of "hardware" HardwareSettings.codec (·.hardware) fun v s => { s with hardware := v }]

end SpectroRemote

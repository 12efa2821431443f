import ShadowDevice.Numerals
import ShadowDevice.Report
import ShadowDevice.Callbacks
import ShadowDevice.DeltaGate
import ShadowDevice.World
import ShadowDevice.Wake
import ShadowDevice.Sync
import ShadowDevice.States
import ShadowDevice.Integrity
import ShadowDevice.Matching

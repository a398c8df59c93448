import Ykp.Backend.Announcements
import Ykp.Backend.Isolation
import Ykp.Backend.PresenceRefinement
import Ykp.Backend.ReplayGuardBits
import Ykp.Backend.SessionKeys
import Ykp.Backend.StaleClose
import Ykp.Codec.PacketPayload
import Ykp.Codec.PacketRoundTrip
import Ykp.Codec.TlvBounds
import Ykp.Firmware.CertUpload
import Ykp.Firmware.CryptoPool
import Ykp.Firmware.JsonCommand
import Ykp.Firmware.LifetimeSettings
import Ykp.Firmware.OtaGate
import Ykp.Firmware.OtaSequence
import Ykp.Firmware.ProvisionIdentity
import Ykp.Firmware.ProvisionSeal
import Ykp.Firmware.ProvisionSurvival
import Ykp.Firmware.QosPhases
import Ykp.Firmware.QosSpacing
import Ykp.Firmware.QosTransmissions
import Ykp.Firmware.RxBuffer
import Ykp.Firmware.SessionAcks
import Ykp.Firmware.WifiScan
import Ykp.System.Acknowledgement
import Ykp.System.BleFraming
import Ykp.System.BuilderOverflow
import Ykp.System.Dashboard
import Ykp.System.Delivery
import Ykp.System.DeviceFields
import Ykp.System.FreshIds
import Ykp.System.GuardAgreement
import Ykp.System.HalfPrecision
import Ykp.System.HmacAgreement
import Ykp.System.IndexedChunks
import Ykp.System.IntegerFields
import Ykp.System.IvAgreement
import Ykp.System.KeyAgreement
import Ykp.System.LocalUdp
import Ykp.System.OtaBegin
import Ykp.System.Provisioning
import Ykp.System.RelayState
import Ykp.System.Replay
import Ykp.System.ServerFields
import Ykp.System.Telemetry

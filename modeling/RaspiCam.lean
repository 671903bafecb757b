import RaspiCam.Lib.Run
import RaspiCam.Lib.Machine
import RaspiCam.Lib.Bytes
import RaspiCam.Lib.Monitor
import RaspiCam.Lib.Ledger
import RaspiCam.Lib.Unwinding
import RaspiCam.Lib.WriteThrough
import RaspiCam.Lib.While
import RaspiCam.Lib.LineStream
import RaspiCam.Lib.Quantize
import RaspiCam.Core.Types
import RaspiCam.Core.Settings
import RaspiCam.Core.Mmal
import RaspiCam.Core.Commit
import RaspiCam.Core.Scaler
import RaspiCam.Core.Serial
import RaspiCam.Video.Frame
import RaspiCam.Video.FastPath
import RaspiCam.Video.Impl
import RaspiCam.Video.Device
import RaspiCam.Video.Bounds
import RaspiCam.Video.Crop
import RaspiCam.Video.Cv
import RaspiCam.Video.Frozen
import RaspiCam.Video.Ledger
import RaspiCam.Video.SendLoop
import RaspiCam.Video.Feedback
import RaspiCam.Video.Properties
import RaspiCam.Video.InStep
import RaspiCam.Video.Early
import RaspiCam.Video.Stages
import RaspiCam.Video.Prepared
import RaspiCam.Still.Impl
import RaspiCam.Still.Device
import RaspiCam.Still.Calls
import RaspiCam.Still.Settings
import RaspiCam.Still.Initialize
import RaspiCam.Still.Recorded
import RaspiCam.Still.Pointers
import RaspiCam.Still.Size
import RaspiCam.Still.Collect
import RaspiCam.Still.Picture
import RaspiCam.Still.Stream
import RaspiCam.Still.Lifetime
import RaspiCam.Still.Leftovers
import RaspiCam.Still.Cv
import RaspiCam.Still.Properties
import RaspiCam.Still.Bitmap
import RaspiCam.Sync.ThreadCondition
import RaspiCam.Sync.Grab
import RaspiCam.Sync.Session
import RaspiCam.Sync.Stranded
import RaspiCam.Settings.Normalize
import RaspiCam.Settings.Ranges
import RaspiCam.Settings.Rotation
import RaspiCam.Settings.Truthful
import RaspiCam.Settings.Scaled
import RaspiCam.Headers.Circulation
import RaspiCam.Lib.Chain
import RaspiCam.Lib.Objects
import RaspiCam.Lib.Threads
import RaspiCam.Lib.References
import RaspiCam.Lib.Simulation
import RaspiCam.Framework.Queue
import RaspiCam.Framework.QueueThreads
import RaspiCam.Framework.Buffer
import RaspiCam.Framework.Component
import RaspiCam.Framework.Port
import RaspiCam.Framework.PortCirculation
import RaspiCam.Framework.Client
import RaspiCam.Framework.ClientReply
import RaspiCam.Framework.ClientProgress
import RaspiCam.Framework.VcPort
import RaspiCam.Lib.Blocks
import RaspiCam.Vcos.Blockpool
import RaspiCam.Vcos.Handle
import RaspiCam.Framework.Connection

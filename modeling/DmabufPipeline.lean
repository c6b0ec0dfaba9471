import DmabufPipeline.Lib.Fifo
import DmabufPipeline.Wire.Message
import DmabufPipeline.Process.Publisher
import DmabufPipeline.Process.Subscriber
import DmabufPipeline.Capture.Start
import DmabufPipeline.Pipeline.System
import DmabufPipeline.Pipeline.Lockstep
import DmabufPipeline.Pipeline.Steps
import DmabufPipeline.Pipeline.Exclusivity
import DmabufPipeline.Pipeline.Fidelity
import DmabufPipeline.Pipeline.GpuRace
import DmabufPipeline.Wire.Agreement
import DmabufPipeline.Wire.Session
import DmabufPipeline.Egl.Attributes
import DmabufPipeline.Egl.Pixels
import DmabufPipeline.Lib.StopFlag
import DmabufPipeline.Process.AnyPeer
import DmabufPipeline.Capture.Ownership
import DmabufPipeline.Process.Signals
import DmabufPipeline.Lib.Holders
import DmabufPipeline.Wire.ScopedFd
import DmabufPipeline.Egl.AttributeList
import DmabufPipeline.Capture.BufferSet
import DmabufPipeline.Egl.Geometry
import DmabufPipeline.Wire.Installed
import DmabufPipeline.Lib.Directory
import DmabufPipeline.Wire.Listen
import DmabufPipeline.Process.SocketPath
import DmabufPipeline.Egl.Init
import DmabufPipeline.Lib.ByteText
import DmabufPipeline.Process.CommandLine
import DmabufPipeline.Capture.DmaHeap
import DmabufPipeline.Process.PublisherDma
import DmabufPipeline.Lib.Ranking
import DmabufPipeline.Pipeline.Shutdown
import DmabufPipeline.Pipeline.Crowd
import DmabufPipeline.Lib.Raster
import DmabufPipeline.Lib.Gles
import DmabufPipeline.Egl.Renderer
import DmabufPipeline.Pipeline.Screen
import DmabufPipeline.Lib.InFlight
import DmabufPipeline.Lib.XdgShell
import DmabufPipeline.Wayland.Window
import DmabufPipeline.Wayland.Conforms
import DmabufPipeline.Process.PublisherMmap
import DmabufPipeline.Process.SameCalls
import DmabufPipeline.Process.SubscriberRun
import DmabufPipeline.Lib.BufferQueue
import DmabufPipeline.Process.Streaming

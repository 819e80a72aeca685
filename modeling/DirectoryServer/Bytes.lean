set_option autoImplicit false

namespace DirectoryServer

abbrev Bytes := List UInt8

end DirectoryServer
